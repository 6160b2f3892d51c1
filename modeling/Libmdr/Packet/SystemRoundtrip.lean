import Libmdr.Packet.Roundtrip

/-!
# SYSTEM packets there and back

Assignable settings are three counted lists inside each other, sized in one loop and
written in another; they come back from the decoder, and what is decoded is encoded to the
bytes that were read. Of the other SYSTEM packets all come back but the capability of the
smart talking mode, whose case in the encoder runs on into that of assignable settings.
-/

namespace Libmdr
set_option autoImplicit false

open Parse

/-! ## Capabilities -/

theorem parseSystemGetCapability_accepts (packet : SystemGetCapability) :
    Accepts parseSystemGetCapability [ByteEnum.byte packet.inquiredType] packet :=
  .bind (.enum packet.inquiredType) (.pure _)

theorem parseSystemCapabilityAutoPowerOff_accepts {capability : SystemCapabilityAutoPowerOff}
    (counts : capability.CountsMatch) :
    Accepts parseSystemCapabilityAutoPowerOff
      (capability.elementIdCount :: capability.elementIds.map ByteEnum.byte) capability :=
  .bind (.byte capability.elementIdCount) (.map _ (.forEach_enum counts))

/-- The smart talking mode on the wire, as the decoder has it. -/
def SystemCapabilitySmartTalkingMode.encoded (capability : SystemCapabilitySmartTalkingMode) :
    List UInt8 :=
  [ByteEnum.byte capability.settingType, ByteEnum.byte capability.previewType,
    ByteEnum.byte capability.detailSetting, ByteEnum.byte capability.detectionSensitivityType,
    ByteEnum.byte capability.voiceFocusType, ByteEnum.byte capability.modeOutTimeType,
    capability.timeouts[0], capability.timeouts[1], capability.timeouts[2],
    capability.timeouts[3]]

theorem parseSystemCapabilitySmartTalkingMode_accepts
    (capability : SystemCapabilitySmartTalkingMode) :
    Accepts parseSystemCapabilitySmartTalkingMode capability.encoded capability := by
  obtain ⟨settingType, previewType, detailSetting, detectionSensitivityType, voiceFocusType,
    modeOutTimeType, timeouts⟩ := capability
  have four : timeouts = #v[timeouts[0], timeouts[1], timeouts[2], timeouts[3]] := by
    ext i isIndex
    match i, isIndex with
    | 0, _ => rfl
    | 1, _ => rfl
    | 2, _ => rfl
    | 3, _ => rfl
  have accepts : Accepts parseSystemCapabilitySmartTalkingMode
      [ByteEnum.byte settingType, ByteEnum.byte previewType, ByteEnum.byte detailSetting,
        ByteEnum.byte detectionSensitivityType, ByteEnum.byte voiceFocusType,
        ByteEnum.byte modeOutTimeType, timeouts[0], timeouts[1], timeouts[2], timeouts[3]]
      ⟨settingType, previewType, detailSetting, detectionSensitivityType, voiceFocusType,
        modeOutTimeType, #v[timeouts[0], timeouts[1], timeouts[2], timeouts[3]]⟩ :=
    .bind (.enum settingType) (.bind (.enum previewType) (.bind (.enum detailSetting)
      (.bind (.enum detectionSensitivityType) (.bind (.enum voiceFocusType)
        (.bind (.enum modeOutTimeType) (.bind (.byte timeouts[0]) (.bind (.byte timeouts[1])
          (.bind (.byte timeouts[2]) (.bind (.byte timeouts[3]) (.pure _))))))))))
  rwa [← four] at accepts

theorem parseSystemAssignableSettingsCapabilityAction_accepts
    (action : SystemAssignableSettingsCapabilityAction) :
    Accepts parseSystemAssignableSettingsCapabilityAction
      (writeSystemAssignableSettingsCapabilityAction action) action :=
  .bind (.enum action.action) (.bind (.enum action.function) (.pure _))

theorem parseSystemAssignableSettingsCapabilityPreset_accepts
    {preset : SystemAssignableSettingsCapabilityPreset} (counts : preset.CountsMatch) :
    Accepts parseSystemAssignableSettingsCapabilityPreset preset.encoded preset := by
  have actions := Accepts.forEach counts fun action _ =>
    parseSystemAssignableSettingsCapabilityAction_accepts action
  exact .bind (.enum preset.preset) (.bind (.byte preset.numCapabilityActions) (.map _ actions))

theorem parseSystemAssignableSettingsCapabilityKey_accepts
    {key : SystemAssignableSettingsCapabilityKey} (counts : key.CountsMatch) :
    Accepts parseSystemAssignableSettingsCapabilityKey key.encoded key := by
  have presets := Accepts.forEach counts.1 fun preset isIn =>
    parseSystemAssignableSettingsCapabilityPreset_accepts (counts.2 preset isIn)
  exact .bind (.enum key.key) (.bind (.enum key.keyType) (.bind (.enum key.defaultPreset)
    (.bind (.byte key.numCapabilityPresets) (.map _ presets))))

theorem parseSystemCapabilityAssignableSettings_accepts
    {capability : SystemCapabilityAssignableSettings} (counts : capability.CountsMatch) :
    Accepts parseSystemCapabilityAssignableSettings capability.encoded capability := by
  have keys := Accepts.forEach counts.1 fun key isIn =>
    parseSystemAssignableSettingsCapabilityKey_accepts (counts.2 key isIn)
  exact .bind (.byte capability.numCapabilityKeys) (.map _ keys)

/-- A capability of the smart talking mode. -/
def SystemRetCapability.IsSmartTalkingMode : SystemRetCapability → Prop
  | .smartTalkingMode _ => True
  | _ => False

theorem parseSystemRetCapability_accepts {packet : SystemRetCapability}
    (counts : packet.CountsMatch) (other : ¬ packet.IsSmartTalkingMode) : ∃ size bytes,
      writeSystemRetCapability packet = some [⟨size, bytes⟩] ∧
        Accepts parseSystemRetCapability bytes packet := by
  cases packet with
  | vibrator capability =>
    exact ⟨_, _, rfl, .bind (.enum SystemInquiredType.vibrator)
      (.bind (.enum capability.settingType) (.pure _))⟩
  | powerSavingMode capability =>
    exact ⟨_, _, rfl, .bind (.enum SystemInquiredType.powerSavingMode)
      (.bind (.enum capability.settingType) (.pure _))⟩
  | controlByWearing capability =>
    exact ⟨_, _, rfl, .bind (.enum SystemInquiredType.controlByWearing)
      (.bind (.enum capability.settingType) (.pure _))⟩
  | autoPowerOff capability =>
    have accepts : Accepts parseSystemRetCapability _ (.autoPowerOff capability) :=
      .bind (.enum SystemInquiredType.autoPowerOff)
        (.map _ (parseSystemCapabilityAutoPowerOff_accepts counts))
    exact ⟨_, _, counted_eq_some counts, accepts⟩
  | smartTalkingMode capability => exact absurd trivial other
  | assignableSettings capability =>
    obtain ⟨size, isLayout⟩ := writeSystemCapabilityAssignableSettings_eq
      (ByteEnum.byte SystemInquiredType.assignableSettings) counts
    refine ⟨size, _, ?_, .bind (.enum SystemInquiredType.assignableSettings)
      (.map _ (parseSystemCapabilityAssignableSettings_accepts counts))⟩
    rw [writeSystemRetCapability]
    simp only [SystemRetCapability.inquiredType, isLayout]
    rfl

/-! ## Parameters -/

theorem parseSystemGetParam_accepts (packet : SystemGetParam) :
    Accepts parseSystemGetParam [ByteEnum.byte packet.inquiredType] packet :=
  .bind (.enum packet.inquiredType) (.pure _)

theorem parseSystemParamVibrator_accepts (param : SystemParamVibrator) :
    Accepts parseSystemParamVibrator
      [ByteEnum.byte param.settingType, ByteEnum.byte param.settingValue] param :=
  .bind (.enum param.settingType) (.bind (.enum param.settingValue) (.pure _))

theorem parseSystemParamPowerSavingMode_accepts (param : SystemParamPowerSavingMode) :
    Accepts parseSystemParamPowerSavingMode
      [ByteEnum.byte param.settingType, ByteEnum.byte param.settingValue] param :=
  .bind (.enum param.settingType) (.bind (.enum param.settingValue) (.pure _))

theorem parseSystemParamControlByWearing_accepts (param : SystemParamControlByWearing) :
    Accepts parseSystemParamControlByWearing
      [ByteEnum.byte param.settingType, ByteEnum.byte param.settingValue] param :=
  .bind (.enum param.settingType) (.bind (.enum param.settingValue) (.pure _))

theorem parseSystemParamSmartTalkingMode_accepts (param : SystemParamSmartTalkingMode) :
    Accepts parseSystemParamSmartTalkingMode
      [ByteEnum.byte param.settingType, ByteEnum.byte param.settingValue] param :=
  .bind (.enum param.settingType) (.bind (.enum param.settingValue) (.pure _))

theorem parseSystemParamAutoPowerOff_accepts (param : SystemParamAutoPowerOff) :
    Accepts parseSystemParamAutoPowerOff [ByteEnum.byte param.parameterType,
      ByteEnum.byte param.elementId, ByteEnum.byte param.selectTimeElementId] param :=
  .bind (.enum param.parameterType) (.bind (.enum param.elementId)
    (.bind (.enum param.selectTimeElementId) (.pure _)))

theorem parseSystemParamAssignableSettings_accepts {param : SystemParamAssignableSettings}
    (counts : param.CountsMatch) :
    Accepts parseSystemParamAssignableSettings
      (param.numPresets :: param.presets.map ByteEnum.byte) param :=
  .bind (.byte param.numPresets) (.map _ (.forEach_enum counts))

theorem parseSystemRetParam_accepts {packet : SystemRetParam} (counts : packet.CountsMatch) :
    ∃ size bytes, writeSystemRetParam packet = some [⟨size, bytes⟩] ∧
      Accepts parseSystemRetParam bytes packet := by
  cases packet with
  | vibrator param =>
    exact ⟨_, _, rfl, .bind (.enum SystemInquiredType.vibrator)
      (.map _ (parseSystemParamVibrator_accepts param))⟩
  | powerSavingMode param =>
    exact ⟨_, _, rfl, .bind (.enum SystemInquiredType.powerSavingMode)
      (.map _ (parseSystemParamPowerSavingMode_accepts param))⟩
  | controlByWearing param =>
    exact ⟨_, _, rfl, .bind (.enum SystemInquiredType.controlByWearing)
      (.map _ (parseSystemParamControlByWearing_accepts param))⟩
  | autoPowerOff param =>
    exact ⟨_, _, rfl, .bind (.enum SystemInquiredType.autoPowerOff)
      (.map _ (parseSystemParamAutoPowerOff_accepts param))⟩
  | smartTalkingMode param =>
    exact ⟨_, _, rfl, .bind (.enum SystemInquiredType.smartTalkingMode)
      (.map _ (parseSystemParamSmartTalkingMode_accepts param))⟩
  | assignableSettings param =>
    have accepts : Accepts parseSystemRetParam _ (.assignableSettings param) :=
      .bind (.enum SystemInquiredType.assignableSettings)
        (.map _ (parseSystemParamAssignableSettings_accepts counts))
    exact ⟨_, _, counted_eq_some counts, accepts⟩

/-! ## Packets -/

/-- The types of the SYSTEM family. -/
def PacketType.IsSystem : PacketType → Prop
  | .systemGetCapability | .systemRetCapability | .systemGetParam | .systemRetParam
  | .systemSetParam | .systemNtfyParam => True
  | _ => False

namespace Packet

theorem not_isBatteryLevel_of_isSystem {packet : Packet} (isSystem : packet.type.IsSystem) :
    ¬ packet.IsBatteryLevel :=
  not_isBatteryLevel_of isSystem id id

/-- The answer about the capability of the smart talking mode. -/
def IsSmartTalkingCapability : Packet → Prop
  | .systemRetCapability data => data.IsSmartTalkingMode
  | _ => False

theorem system_agrees {packet : Packet} (isSystem : packet.type.IsSystem)
    (counts : packet.CountsMatch) (other : ¬ packet.IsSmartTalkingCapability) :
    packet.Agrees := by
  cases packet with
  | systemGetCapability data =>
    exact ⟨_, _, rfl, accepts_member _ (parseSystemGetCapability_accepts data)⟩
  | systemRetCapability data =>
    obtain ⟨size, bytes, written, accepts⟩ := parseSystemRetCapability_accepts counts other
    exact ⟨size, bytes, written, accepts_member _ accepts⟩
  | systemGetParam data => exact ⟨_, _, rfl, accepts_member _ (parseSystemGetParam_accepts data)⟩
  | systemRetParam data | systemSetParam data | systemNtfyParam data =>
    obtain ⟨size, bytes, written, accepts⟩ := parseSystemRetParam_accepts counts
    exact ⟨size, bytes, written, accepts_member _ accepts⟩
  | _ => exact False.elim isSystem

/-- What is read as assignable settings, behind the type. -/
theorem parse_systemRetCapability_reads :
    Reads (parse .systemRetCapability) (2 ^ 26) fun taken packet =>
      ∀ capability, packet = .systemRetCapability (.assignableSettings capability) →
        capability.CountsMatch ∧
          taken = ByteEnum.byte SystemInquiredType.assignableSettings :: capability.encoded := by
  refine .bind (Nat.zero_le _) .alloc ?_
  rintro _ _ rfl
  refine .map (by decide) parseSystemRetCapability_reads ?_
  rintro taken _ ⟨counts, read⟩ capability ⟨⟩
  exact ⟨counts, read capability rfl⟩

/-- **Assignable settings, both ways**: they come back as the same packet, and what is
decoded as assignable settings is encoded to the bytes that were read. -/
theorem assignable_settings_roundtrip :
    (∀ capability : SystemCapabilityAssignableSettings,
      (systemRetCapability (.assignableSettings capability)).WellFormed →
      (systemRetCapability (.assignableSettings capability)).RoundTrips) ∧
    (∀ (frame : Frame) (heap : Heap) (h h' : Host)
      (capability : SystemCapabilityAssignableSettings),
      frame.payloadLength.toNat ≤ frame.body.length →
      fromFrame heap frame h
        = some (some (.systemRetCapability (.assignableSettings capability)), h') →
      ∀ (heap' : Heap) (h₁ : Host), heap'.NeverFails → ∃ again h₂,
        toFrame heap' (.systemRetCapability (.assignableSettings capability)) h₁
          = some (some again, h₂) ∧ again.payload <+: frame.payload) := by
  have notBattery : ∀ capability : SystemCapabilityAssignableSettings,
      ¬ (systemRetCapability (.assignableSettings capability)).IsBatteryLevel :=
    fun _ => not_isBatteryLevel_of_isSystem trivial
  constructor
  · intro capability wellFormed
    have agrees : (systemRetCapability (.assignableSettings capability)).Agrees :=
      system_agrees trivial wellFormed.counts id
    exact agrees.roundTrips (notBattery capability)
  · intro frame heap h h' capability holds accepted heap' h₁ never
    obtain ⟨type, rest, isPayload, parsed⟩ := fromFrame_parsed holds accepted
    obtain ⟨_, _, decodes⟩ := parsed _ (parse_reads type)
    obtain rfl := decodes.isType
    obtain ⟨_, front, read⟩ := parsed _ parse_systemRetCapability_reads
    obtain ⟨counts, rfl⟩ := read capability rfl
    obtain ⟨size, isLayout⟩ := writeSystemCapabilityAssignableSettings_eq
      (ByteEnum.byte SystemInquiredType.assignableSettings) counts
    have layouts : (systemRetCapability (.assignableSettings capability)).layouts
        = some [⟨size, ByteEnum.byte SystemInquiredType.assignableSettings ::
          capability.encoded⟩] := by
      simp only [Packet.layouts, writeSystemRetCapability, SystemRetCapability.inquiredType, isLayout]
      rfl
    obtain ⟨again, h₂, runs, -, isAgain⟩ :=
      toFrame_payload (notBattery capability) layouts never h₁
    refine ⟨again, h₂, runs, ?_⟩
    rw [isAgain, isPayload]
    exact List.cons_prefix_cons.mpr ⟨rfl, front⟩

/-- `assignable_settings_roundtrip` on a key with a preset that has no action, and on a frame
without keys that has a byte more than it needs. -/
theorem assignable_settings_roundtrip_empty_preset :
    RoundTrips (.systemRetCapability (.assignableSettings
      ⟨1, [⟨.leftSideKey, .touchSensor, .noFunction, 1, [⟨.volumeControl, 0, []⟩]⟩]⟩)) ∧
    ∃ again h₂, toFrame (fun _ => some []) (.systemRetCapability (.assignableSettings ⟨0, []⟩))
        ⟨0, [], [], 0, [], []⟩ = some (some again, h₂) ∧
      again.payload <+: Frame.payload ⟨0x0c, 0, 4, [0xf1, 0x06, 0, 9, 0]⟩ := by
  constructor
  · refine assignable_settings_roundtrip.1 _ ⟨⟨rfl, ?_⟩, trivial⟩
    intro key isIn
    obtain rfl := List.mem_singleton.mp isIn
    refine ⟨rfl, ?_⟩
    intro preset isPreset
    obtain rfl := List.mem_singleton.mp isPreset
    rfl
  · exact assignable_settings_roundtrip.2 ⟨0x0c, 0, 4, [0xf1, 0x06, 0, 9, 0]⟩ (fun _ => some [])
      ⟨0, [], [], 0, [], []⟩ ⟨0, [], [], 2, [], []⟩ ⟨0, []⟩ (by decide) rfl _ _ fun _ => rfl

/-- The frame that is returned for the smart talking mode is the one without keys, which
stops short of what the decoder needs. -/
theorem not_roundTrips_smart_talking (capability : SystemCapabilitySmartTalkingMode) :
    ¬ (systemRetCapability (.smartTalkingMode capability)).RoundTrips := by
  have accepts : (parse .systemRetCapability).Accepts
      (ByteEnum.byte SystemInquiredType.smartTalkingMode :: capability.encoded)
      (.systemRetCapability (.smartTalkingMode capability)) :=
    accepts_member systemRetCapability (.bind (.enum SystemInquiredType.smartTalkingMode)
      (.map _ (parseSystemCapabilitySmartTalkingMode_accepts capability)))
  have length : (ByteEnum.byte SystemInquiredType.smartTalkingMode :: capability.encoded).length
      = 11 := rfl
  have determines := (parse_determined .systemRetCapability).determines accepts
    (by rw [length]; decide)
  have encodes : (systemRetCapability (.smartTalkingMode capability)).layouts.isSome :=
    layouts_isSome trivial
  have isWritten : (systemRetCapability (.smartTalkingMode capability)).written
      = some [ByteEnum.byte PacketType.systemRetCapability,
        ByteEnum.byte SystemInquiredType.smartTalkingMode, ByteEnum.byte capability.settingType] := by
    obtain ⟨⟨⟩, _⟩ := capability
    rfl
  refine not_roundTrips_of_rejects encodes (not_isBatteryLevel_of_isSystem trivial) isWritten
    (determines.shorter _ ⟨capability.encoded.tail, rfl⟩ ?_)
  intro same
  have shorter := congrArg List.length same
  rw [length] at shorter
  cases shorter

/-- Which SYSTEM packets come back: all but the capability of the smart talking mode. -/
theorem system_roundTrips_iff {packet : Packet} (isSystem : packet.type.IsSystem)
    (wellFormed : packet.WellFormed) :
    packet.RoundTrips ↔ ¬ packet.IsSmartTalkingCapability := by
  constructor
  · intro roundTrips isSmartTalking
    cases packet with
    | systemRetCapability data =>
      cases data with
      | smartTalkingMode capability => exact not_roundTrips_smart_talking capability roundTrips
      | _ => exact isSmartTalking
    | _ => exact isSmartTalking
  · intro other
    exact (system_agrees isSystem wellFormed.counts other).roundTrips
      (not_isBatteryLevel_of_isSystem isSystem)

/-- A smart talking mode with all timeouts 0 does not come back. -/
theorem not_roundTrips_smart_talking_support :
    WellFormed (.systemRetCapability (.smartTalkingMode
      ⟨.onOff, .support, .type1, .autoHighLow, .onOff, .type1, #v[0, 0, 0, 0]⟩)) ∧
    ¬ RoundTrips (.systemRetCapability (.smartTalkingMode
      ⟨.onOff, .support, .type1, .autoHighLow, .onOff, .type1, #v[0, 0, 0, 0]⟩)) :=
  ⟨⟨trivial, trivial⟩, not_roundTrips_smart_talking _⟩

/-- `system_roundTrips_iff` on three ways to switch off. -/
theorem system_roundTrips_iff_auto_power_off :
    RoundTrips (.systemRetCapability (.autoPowerOff
        ⟨3, [.powerOffIn5Min, .powerOffIn30Min, .powerOffDisable]⟩)) ↔
      ¬ IsSmartTalkingCapability (.systemRetCapability (.autoPowerOff
        ⟨3, [.powerOffIn5Min, .powerOffIn30Min, .powerOffDisable]⟩)) :=
  system_roundTrips_iff trivial ⟨rfl, trivial⟩

end Packet

end Libmdr
