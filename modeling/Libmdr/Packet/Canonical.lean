import Libmdr.Packet.Lossless

/-!
# What is read is what would be written

Parsers in the direction of the encoder: the bytes that a parser took are those that the encoder
writes for the packet it returned. So an accepted payload begins with the only encoding of its
packet. The exceptions are the packets that encoder and decoder do not agree on, and strings of
PLAY that were announced with more than 128 bytes.
-/

namespace Libmdr
set_option autoImplicit false

open Parse

namespace Parse.Reads

variable {α β γ : Type} {p : Parse α} {n : Nat} {post post' : List UInt8 → α → Prop}

/-- Two things that are known of the same bytes. -/
theorem and (first : p.Reads n post) (second : p.Reads n post') :
    p.Reads n fun taken a => post taken a ∧ post' taken a := by
  intro heap frame cursor room
  have outcome := first heap frame cursor room
  exact ⟨outcome.advances, outcome.safe, fun a isOk =>
    ⟨outcome.sound a isOk, (second heap frame cursor room).sound a isOk⟩⟩

theorem enum_enum [ByteEnum α] [ByteEnum β] (make : α → β → γ) :
    Reads (Parse.enum >>= fun a => Parse.enum >>= fun b => Pure.pure (make a b)) 2
      fun taken made => ∃ a b, made = make a b ∧ taken = [ByteEnum.byte a, ByteEnum.byte b] := by
  refine one enum ?_
  rintro a _ rfl
  refine one enum ?_
  rintro b _ rfl
  exact pure ⟨a, b, rfl, rfl⟩

theorem forEach_enum [ByteEnum α] (count : UInt8) :
    Reads (Parse.forEach count (Parse.enum : Parse α)) 255 fun taken values =>
      values.length = count.toNat ∧ taken = values.map ByteEnum.byte := by
  have element : Reads (Parse.enum : Parse α) 1 fun taken a => True ∧ taken = [ByteEnum.byte a] :=
    enum.weaken (Nat.le_refl 1) fun _ _ isByte => ⟨trivial, isByte⟩
  refine (forEach_encoded element count).weaken (Nat.le_refl 255) ?_
  rintro taken values ⟨length, -, rfl⟩
  exact ⟨length, List.map_eq_flatMap.symm⟩

end Parse.Reads

/-- The encoder makes one frame, with these bytes behind the type. -/
def Written (made : Option (List Layout)) (bytes : List UInt8) : Prop :=
  ∃ size, made = some [⟨size, bytes⟩]

/-! ## CONNECT -/

theorem parseConnectGetProtocolInfo_written : Reads parseConnectGetProtocolInfo 1
    fun taken packet => Written (writeConnectGetProtocolInfo packet) taken := by
  refine .one .fixedValue ?_
  rintro value _ ⟨rfl, -⟩
  exact .pure ⟨_, rfl⟩

theorem parseConnectRetProtocolInfo_written : Reads parseConnectRetProtocolInfo 3
    fun taken packet => Written (writeConnectRetProtocolInfo packet) taken := by
  refine .one .fixedValue ?_
  rintro value _ ⟨rfl, -⟩
  refine .one .byte ?_
  rintro versionHigh _ rfl
  refine .one .byte ?_
  rintro versionLow _ rfl
  exact .pure ⟨_, rfl⟩

theorem parseConnectGetDeviceInfo_written : Reads parseConnectGetDeviceInfo 1
    fun taken packet => Written (writeConnectGetDeviceInfo packet) taken := by
  refine .one .enum ?_
  rintro inquiredType _ rfl
  exact .pure ⟨_, rfl⟩

theorem parseDeviceInfoInstructionGuide_taken : Reads parseDeviceInfoInstructionGuide 256
    fun taken guide => guide.CountsMatch ∧
      taken = guide.numGuidanceCategories :: guide.guidanceCategories.map ByteEnum.byte := by
  refine .one .byte ?_
  rintro count _ rfl
  refine .map (Nat.le_refl 255) (.forEach_enum count) ?_
  rintro _ categories ⟨length, rfl⟩
  exact ⟨length, rfl⟩

/-- A string that was cut is not encoded: its length is more than there is. -/
theorem parseConnectRetDeviceInfo_written : Reads parseConnectRetDeviceInfo 257
    fun taken info => ((Packet.connectRetDeviceInfo info).StringsFit →
        Written (writeConnectRetDeviceInfo info) taken) ∧
      ((writeConnectRetDeviceInfo info).isSome → info.CountsMatch) := by
  refine .one .enum ?_
  rintro inquired _ rfl
  cases inquired with
  | modelName | fwVersion =>
    refine .map (by omega) parseDeviceInfoString_reads ?_
    rintro _ string ⟨rfl, length⟩
    refine ⟨fun fits => ⟨_, counted_eq_some ?_⟩, fun isSome => ?_⟩
    · rw [length, Nat.min_eq_right fits]
    · obtain ⟨layouts, made⟩ := Option.isSome_iff_exists.mp isSome
      obtain ⟨elements, counted, -⟩ := Option.bind_eq_some_iff.mp made
      have enough := (Option.ite_none_right_eq_some.mp counted).1
      exact le_antisymm (length.le.trans (Nat.min_le_right _ _)) enough
  | seriesAndColor =>
    refine .map (by omega) (.enum_enum DeviceInfoSeriesAndColor.mk) ?_
    rintro _ _ ⟨series, color, rfl, rfl⟩
    exact ⟨fun _ => ⟨_, rfl⟩, fun _ => trivial⟩
  | instructionGuide =>
    refine .map (by omega) parseDeviceInfoInstructionGuide_taken ?_
    rintro _ guide ⟨counts, rfl⟩
    exact ⟨fun _ => ⟨_, counted_eq_some counts⟩, fun _ => counts⟩

theorem parseConnectGetSupportFunction_written : Reads parseConnectGetSupportFunction 1
    fun taken packet => Written (writeConnectGetSupportFunction packet) taken := by
  refine .one .fixedValue ?_
  rintro value _ ⟨rfl, -⟩
  exact .pure ⟨_, rfl⟩

theorem parseConnectRetSupportFunction_written : Reads parseConnectRetSupportFunction 257
    fun taken packet => Written (writeConnectRetSupportFunction packet) taken := by
  refine .one .fixedValue ?_
  rintro value _ ⟨rfl, -⟩
  refine .one .byte ?_
  rintro count _ rfl
  refine .map (Nat.le_refl 255) (.forEach_enum count) ?_
  rintro _ types ⟨length, rfl⟩
  exact ⟨_, counted_eq_some length⟩

/-! ## COMMON -/

theorem parseCommonGetBatteryLevel_written : Reads parseCommonGetBatteryLevel 1
    fun taken packet => Written (writeCommonGetBatteryLevel packet) taken := by
  refine .one .enum ?_
  rintro inquiredType _ rfl
  exact .pure ⟨_, rfl⟩

theorem parseCommonSetPowerOff_written : Reads parseCommonSetPowerOff 2
    fun taken packet => Written (writeCommonSetPowerOff packet) taken := by
  refine (Reads.enum_enum CommonSetPowerOff.mk).weaken (Nat.le_refl 2) ?_
  rintro _ _ ⟨inquiredType, settingValue, rfl, rfl⟩
  exact ⟨_, rfl⟩

theorem parseCommonGetConnectionStatus_written : Reads parseCommonGetConnectionStatus 1
    fun taken packet => Written (writeCommonGetConnectionStatus packet) taken := by
  refine .one .enum ?_
  rintro inquiredType _ rfl
  exact .pure ⟨_, rfl⟩

theorem parseCommonRetConnectionStatus_written : Reads parseCommonRetConnectionStatus 3
    fun taken packet => Written (writeCommonRetConnectionStatus packet) taken := by
  refine .one .enum ?_
  rintro inquiredType _ rfl
  cases inquiredType
  have statuses := Reads.enum_enum fun left right => CommonRetConnectionStatus.leftRight ⟨left, right⟩
  refine statuses.weaken (Nat.le_refl 2) ?_
  rintro _ _ ⟨left, right, rfl, rfl⟩
  exact ⟨_, rfl⟩

/-! ## NCASM -/

theorem parseNcasmGetParam_written : Reads parseNcasmGetParam 1
    fun taken packet => Written (writeNcasmGetParam packet) taken := by
  refine .one .enum ?_
  rintro inquiredType _ rfl
  exact .pure ⟨_, rfl⟩

/-- The amount is read from where the encoder writes the ASM id. -/
theorem parseNcasmParamAsm_taken : Reads parseNcasmParamAsm 4
    fun taken param => taken = [ByteEnum.byte param.ncasmEffect,
      ByteEnum.byte param.asmSettingType, ByteEnum.byte param.asmId, param.asmAmount] := by
  refine .one .enum ?_
  rintro effect _ rfl
  refine .one .enum ?_
  rintro settingType _ rfl
  refine .one .enum ?_
  rintro asmId _ rfl
  refine .one .byte ?_
  rintro amount _ rfl
  exact .pure rfl

theorem parseNcasmParamNoiseCancellingAsm_taken : Reads parseNcasmParamNoiseCancellingAsm 6
    fun taken param => taken = [ByteEnum.byte param.ncasmEffect,
      ByteEnum.byte param.ncasmSettingType, param.ncasmAmount, ByteEnum.byte param.asmSettingType,
      ByteEnum.byte param.asmId, param.asmAmount] := by
  refine .one .enum ?_
  rintro effect _ rfl
  refine .one .enum ?_
  rintro ncasmSettingType _ rfl
  refine .one .byte ?_
  rintro ncasmAmount _ rfl
  refine .one .enum ?_
  rintro asmSettingType _ rfl
  refine .one .enum ?_
  rintro asmId _ rfl
  refine .one .byte ?_
  rintro asmAmount _ rfl
  exact .pure rfl

/-- What was read is written again, unless the amount gives way to the ASM id. -/
theorem parseNcasmRetParam_written : Reads parseNcasmRetParam 7
    fun taken param => ¬ param.LosesAmount → Written (writeNcasmRetParam param) taken := by
  refine .one .enum ?_
  rintro inquired _ rfl
  cases inquired with
  | noiseCancelling =>
    refine .map (by omega) (.enum_enum NcasmParamNoiseCancelling.mk) ?_
    rintro _ _ ⟨settingType, settingValue, rfl, rfl⟩ _
    exact ⟨_, rfl⟩
  | noiseCancellingAndAsm =>
    refine .map (by omega) parseNcasmParamNoiseCancellingAsm_taken ?_
    rintro _ param rfl _
    exact ⟨_, rfl⟩
  | asm =>
    refine .map (by omega) parseNcasmParamAsm_taken ?_
    rintro _ param rfl keeps
    have amount : param.asmAmount = ByteEnum.byte param.asmId := not_not.mp keeps
    rw [amount]
    exact ⟨_, rfl⟩

/-! ## PLAY -/

theorem parsePlayGetParam_written : Reads parsePlayGetParam 2
    fun taken packet => Written (writePlayGetParam packet) taken := by
  refine (Reads.enum_enum PlayGetParam.mk).weaken (Nat.le_refl 2) ?_
  rintro _ _ ⟨inquiredType, detailedDataType, rfl, rfl⟩
  exact ⟨_, rfl⟩

/-- The bytes of a parameter with the announced length of its string cut at 128. -/
def withCutLength : List UInt8 → List UInt8
  | inquiredType :: detailedDataType :: status :: announced :: data =>
    inquiredType :: detailedDataType :: status :: (if announced > 128 then 128 else announced) ::
      data
  | bytes => bytes

/-- A string of which more than 128 bytes are announced is cut, and only 128 are read. -/
theorem parsePlayPlaybackString_taken : Reads parsePlayPlaybackString 257
    fun taken string => string.CountsMatch ∧ ∃ announced,
      taken = ByteEnum.byte string.status :: announced :: string.data ∧
        string.len = if announced > 128 then 128 else announced := by
  refine .one .enum ?_
  rintro status _ rfl
  refine .one .byte ?_
  rintro announced _ rfl
  refine .map (by omega) (.bytes _) ?_
  rintro _ data ⟨rfl, length⟩
  exact ⟨length, announced, rfl, rfl⟩

/-- The bytes of a parameter: a volume is one byte, and what else there is has a length. -/
def IsPlayValue (taken : List UInt8) : Prop :=
  3 ≤ taken.length ∧
    (4 ≤ taken.length ↔ taken[1]? ≠ some (ByteEnum.byte PlayPlaybackDetailedDataType.volume))

/-- What was read is written again, with the length to which a string was cut. -/
theorem parsePlayRetParam_written : Reads parsePlayRetParam 259
    fun taken packet =>
      Written (writePlayRetParam packet) (withCutLength taken) ∧ IsPlayValue taken := by
  refine .one .enum ?_
  rintro inquiredType _ rfl
  refine .one .enum ?_
  rintro detailedDataType _ rfl
  cases detailedDataType with
  | volume =>
    refine .one .byte ?_
    rintro volume _ rfl
    refine .pure ⟨⟨_, rfl⟩, ?_⟩
    simp [IsPlayValue]
  | trackName | albumName | artistName | genreName | playerName =>
    refine .map (by omega) parsePlayPlaybackString_taken ?_
    rintro _ string ⟨counts, announced, rfl, isLen⟩
    refine ⟨⟨4 + string.len.toNat, (counted_eq_some counts).trans ?_⟩, ?_, fun _ => ?_, fun _ => ?_⟩
    · rw [isLen]
      rfl
    · simp only [List.length_append, List.length_cons, List.length_nil]
      omega
    · change some _ ≠ some _
      decide
    · simp only [List.length_append, List.length_cons, List.length_nil]
      omega

/-! ## SYSTEM -/

theorem parseSystemGetCapability_written : Reads parseSystemGetCapability 1
    fun taken packet => Written (writeSystemGetCapability packet) taken := by
  refine .one .enum ?_
  rintro inquiredType _ rfl
  exact .pure ⟨_, rfl⟩

theorem parseSystemCapabilityAutoPowerOff_taken : Reads parseSystemCapabilityAutoPowerOff 256
    fun taken capability => capability.CountsMatch ∧
      taken = capability.elementIdCount :: capability.elementIds.map ByteEnum.byte := by
  refine .one .byte ?_
  rintro count _ rfl
  refine .map (Nat.le_refl 255) (.forEach_enum count) ?_
  rintro _ elementIds ⟨length, rfl⟩
  exact ⟨length, rfl⟩

/-- What was read is written again, unless it is the smart talking capability. -/
theorem parseSystemRetCapability_written : Reads parseSystemRetCapability (2 ^ 25)
    fun taken packet => ¬ packet.IsSmartTalkingMode →
      Written (writeSystemRetCapability packet) taken := by
  refine .one .enum ?_
  rintro inquired _ rfl
  cases inquired with
  | vibrator | powerSavingMode | controlByWearing =>
    refine .map (by omega) .enum ?_
    rintro _ settingType rfl _
    exact ⟨_, rfl⟩
  | autoPowerOff =>
    refine .map (by omega) parseSystemCapabilityAutoPowerOff_taken ?_
    rintro _ capability ⟨counts, rfl⟩ _
    exact ⟨_, counted_eq_some counts⟩
  | smartTalkingMode =>
    exact .map (by omega) parseSystemCapabilitySmartTalkingMode_reads
      fun _ _ _ other => absurd trivial other
  | assignableSettings =>
    refine .map (by omega) parseSystemCapabilityAssignableSettings_reads ?_
    rintro _ capability ⟨counts, rfl⟩ _
    obtain ⟨size, isLayout⟩ := writeSystemCapabilityAssignableSettings_eq
      (ByteEnum.byte (SystemRetCapability.assignableSettings capability).inquiredType) counts
    refine ⟨size, ?_⟩
    change (writeSystemCapabilityAssignableSettings _ capability).bind _ = _
    rw [isLayout]
    rfl

theorem parseSystemGetParam_written : Reads parseSystemGetParam 1
    fun taken packet => Written (writeSystemGetParam packet) taken := by
  refine .one .enum ?_
  rintro inquiredType _ rfl
  exact .pure ⟨_, rfl⟩

theorem parseSystemParamAutoPowerOff_taken : Reads parseSystemParamAutoPowerOff 3
    fun taken param => taken = [ByteEnum.byte param.parameterType, ByteEnum.byte param.elementId,
      ByteEnum.byte param.selectTimeElementId] := by
  refine .one .enum ?_
  rintro parameterType _ rfl
  refine .one .enum ?_
  rintro elementId _ rfl
  refine .one .enum ?_
  rintro selectTimeElementId _ rfl
  exact .pure rfl

theorem parseSystemParamAssignableSettings_taken : Reads parseSystemParamAssignableSettings 256
    fun taken param => param.CountsMatch ∧
      taken = param.numPresets :: param.presets.map ByteEnum.byte := by
  refine .one .byte ?_
  rintro count _ rfl
  refine .map (Nat.le_refl 255) (.forEach_enum count) ?_
  rintro _ presets ⟨length, rfl⟩
  exact ⟨length, rfl⟩

theorem parseSystemRetParam_written : Reads parseSystemRetParam 257
    fun taken packet => Written (writeSystemRetParam packet) taken := by
  refine .one .enum ?_
  rintro inquired _ rfl
  cases inquired with
  | vibrator =>
    refine .map (by omega) (.enum_enum SystemParamVibrator.mk) ?_
    rintro _ _ ⟨settingType, settingValue, rfl, rfl⟩
    exact ⟨_, rfl⟩
  | powerSavingMode =>
    refine .map (by omega) (.enum_enum SystemParamPowerSavingMode.mk) ?_
    rintro _ _ ⟨settingType, settingValue, rfl, rfl⟩
    exact ⟨_, rfl⟩
  | controlByWearing =>
    refine .map (by omega) (.enum_enum SystemParamControlByWearing.mk) ?_
    rintro _ _ ⟨settingType, settingValue, rfl, rfl⟩
    exact ⟨_, rfl⟩
  | smartTalkingMode =>
    refine .map (by omega) (.enum_enum SystemParamSmartTalkingMode.mk) ?_
    rintro _ _ ⟨settingType, settingValue, rfl, rfl⟩
    exact ⟨_, rfl⟩
  | autoPowerOff =>
    refine .map (by omega) parseSystemParamAutoPowerOff_taken ?_
    rintro _ param rfl
    exact ⟨_, rfl⟩
  | assignableSettings =>
    refine .map (by omega) parseSystemParamAssignableSettings_taken ?_
    rintro _ param ⟨counts, rfl⟩
    exact ⟨_, counted_eq_some counts⟩

/-! ## Packets -/

/-- The types of PLAY packets with a value. -/
def PacketType.HasPlayValue : PacketType → Bool
  | .playRetParam | .playSetParam | .playNtfyParam => true
  | _ => false

namespace Packet

/-- What the encoder makes of a packet that was decoded from `taken`. -/
structure Returns (type : PacketType) (taken : List UInt8) (packet : Packet) : Prop where
  written : packet.Lossless → type.HasPlayValue = false → Written packet.layouts taken
  play : type.HasPlayValue → Written packet.layouts (withCutLength taken) ∧ IsPlayValue taken
  counts : packet.layouts.isSome → packet.CountsMatch

theorem Returns.of_written {type : PacketType} {taken : List UInt8} {packet : Packet}
    (other : type.HasPlayValue = false) (counts : packet.CountsMatch)
    (written : packet.Lossless → Written packet.layouts taken) : packet.Returns type taken where
  written lossless _ := written lossless
  play isPlay := by
    rw [other] at isPlay
    cases isPlay
  counts _ := counts

theorem Returns.of_play {type : PacketType} {taken : List UInt8} {packet : Packet}
    (isPlay : type.HasPlayValue) (counts : packet.CountsMatch)
    (written : Written packet.layouts (withCutLength taken) ∧ IsPlayValue taken) :
    packet.Returns type taken where
  written _ other := by
    rw [isPlay] at other
    cases other
  play _ := written
  counts _ := counts

/-- All parsers of packets, but for what is known of the counts already. -/
theorem parseData_returns (type : PacketType) :
    Reads (parseData type) (2 ^ 26) fun taken packet => packet.Returns type taken := by
  cases type with
  | connectGetProtocolInfo =>
    exact .map (by decide) parseConnectGetProtocolInfo_written
      fun _ _ written => .of_written rfl trivial fun _ => written
  | connectRetProtocolInfo =>
    exact .map (by decide) parseConnectRetProtocolInfo_written
      fun _ _ written => .of_written rfl trivial fun _ => written
  | connectGetDeviceInfo =>
    exact .map (by decide) parseConnectGetDeviceInfo_written
      fun _ _ written => .of_written rfl trivial fun _ => written
  | connectRetDeviceInfo =>
    refine .map (by decide) parseConnectRetDeviceInfo_written ?_
    rintro _ _ ⟨written, counts⟩
    exact ⟨fun lossless _ => written lossless.fits, nofun, counts⟩
  | connectGetSupportFunction =>
    exact .map (by decide) parseConnectGetSupportFunction_written
      fun _ _ written => .of_written rfl trivial fun _ => written
  | connectRetSupportFunction =>
    exact .map (by decide) (parseConnectRetSupportFunction_written.and
        parseConnectRetSupportFunction_reads)
      fun _ _ ⟨written, _, counts⟩ => .of_written rfl counts fun _ => written
  | commonGetBatteryLevel =>
    exact .map (by decide) parseCommonGetBatteryLevel_written
      fun _ _ written => .of_written rfl trivial fun _ => written
  | commonRetBatteryLevel =>
    exact .map (by decide) parseCommonRetBatteryLevel_reads
      fun _ _ _ => .of_written rfl trivial fun lossless => absurd (.inl rfl) lossless.notBattery
  | commonNtfyBatteryLevel =>
    exact .map (by decide) parseCommonRetBatteryLevel_reads
      fun _ _ _ => .of_written rfl trivial fun lossless => absurd (.inr rfl) lossless.notBattery
  | commonSetPowerOff =>
    exact .map (by decide) parseCommonSetPowerOff_written
      fun _ _ written => .of_written rfl trivial fun _ => written
  | commonGetConnectionStatus =>
    exact .map (by decide) parseCommonGetConnectionStatus_written
      fun _ _ written => .of_written rfl trivial fun _ => written
  | commonRetConnectionStatus | commonNtfyConnectionStatus =>
    exact .map (by decide) parseCommonRetConnectionStatus_written
      fun _ _ written => .of_written rfl trivial fun _ => written
  | eqebbGetCapability =>
    exact .map (by decide) parseEqebbGetCapability_reads
      fun _ _ written => .of_written rfl trivial fun _ => ⟨_, written⟩
  | eqebbRetCapability =>
    exact .map (by decide) parseEqebbRetCapability_reads
      fun _ _ ⟨counts, written⟩ => .of_written rfl counts fun _ => ⟨_, written⟩
  | eqebbGetParam =>
    exact .map (by decide) parseEqebbGetParam_reads
      fun _ _ written => .of_written rfl trivial fun _ => ⟨_, written⟩
  | eqebbRetParam | eqebbSetParam | eqebbNtfyParam =>
    exact .map (by decide) parseEqebbRetParam_reads
      fun _ _ ⟨counts, written⟩ => .of_written rfl counts fun _ => ⟨_, written⟩
  | ncasmGetParam =>
    exact .map (by decide) parseNcasmGetParam_written
      fun _ _ written => .of_written rfl trivial fun _ => written
  | ncasmRetParam | ncasmSetParam | ncasmNtfyParam =>
    exact .map (by decide) parseNcasmRetParam_written
      fun _ _ written => .of_written rfl trivial fun lossless => written lossless.keepsAmount
  | playGetParam =>
    exact .map (by decide) parsePlayGetParam_written
      fun _ _ written => .of_written rfl trivial fun _ => written
  | playRetParam | playSetParam | playNtfyParam =>
    exact .map (by decide) (parsePlayRetParam_written.and parsePlayRetParam_reads)
      fun _ _ ⟨written, counts, _⟩ => .of_play rfl counts written
  | systemGetCapability =>
    exact .map (by decide) parseSystemGetCapability_written
      fun _ _ written => .of_written rfl trivial fun _ => written
  | systemRetCapability =>
    exact .map (by decide) (parseSystemRetCapability_written.and parseSystemRetCapability_reads)
      fun _ _ ⟨written, counts, _⟩ => .of_written rfl counts
        fun lossless => written lossless.notSmartTalking
  | systemGetParam =>
    exact .map (by decide) parseSystemGetParam_written
      fun _ _ written => .of_written rfl trivial fun _ => written
  | systemRetParam | systemSetParam | systemNtfyParam =>
    exact .map (by decide) (parseSystemRetParam_written.and parseSystemRetParam_reads)
      fun _ _ ⟨written, counts⟩ => .of_written rfl counts fun _ => written

/-- Every packet type gives back what it was read from, its own exceptions apart. -/
theorem parse_returns (type : PacketType) :
    Reads (parse type) (2 ^ 26) fun taken packet => packet.Returns type taken := by
  refine .bind (Nat.zero_le _) .alloc ?_
  rintro _ _ rfl
  exact parseData_returns type

end Packet

/-- The frame is a PLAY value with a string, and announces more than 128 bytes of it. -/
structure Frame.CutsString (frame : Frame) : Prop where
  type : ∃ type : PacketType, frame.payload[0]? = some (ByteEnum.byte type) ∧ type.HasPlayValue
  string : frame.payload[2]? ≠ some (ByteEnum.byte PlayPlaybackDetailedDataType.volume)
  long : ∃ announced, frame.payload[4]? = some announced ∧ 128 < announced.toNat

/-- The length stays as it is when it announces no more than 128 bytes. -/
theorem withCutLength_eq_iff (bytes : List UInt8) :
    withCutLength bytes = bytes ↔ ∀ announced, bytes[3]? = some announced →
      announced.toNat ≤ 128 := by
  rcases bytes with _ | ⟨a, _ | ⟨b, _ | ⟨c, _ | ⟨announced, data⟩⟩⟩⟩
  · simp [withCutLength]
  · simp [withCutLength]
  · simp [withCutLength]
  · simp [withCutLength]
  · have cut : (if announced > 128 then 128 else announced) = announced ↔
        announced.toNat ≤ 128 := by
      split
      next long =>
        rw [gt_iff_lt, UInt8.lt_iff_toNat_lt] at long
        refine ⟨fun same => ?_, fun short => absurd long (Nat.not_lt.mpr short)⟩
        rw [← same] at long
        exact absurd long (by decide)
      next short =>
        rw [gt_iff_lt, UInt8.lt_iff_toNat_lt] at short
        exact ⟨fun _ => Nat.le_of_not_lt short, fun _ => rfl⟩
    simp [withCutLength, cut]

theorem withCutLength_length (bytes : List UInt8) : (withCutLength bytes).length = bytes.length := by
  unfold withCutLength
  split <;> rfl

/-- In a frame that was accepted the string lies in what was taken of it. -/
theorem Frame.cutsString_iff {frame : Frame} {type : PacketType} {taken more : List UInt8}
    (isPayload : frame.payload = ByteEnum.byte type :: (taken ++ more))
    (isPlay : type.HasPlayValue) (isValue : IsPlayValue taken) :
    frame.CutsString ↔ withCutLength taken ≠ taken := by
  obtain ⟨three, string⟩ := isValue
  have second : frame.payload[2]? = taken[1]? := by
    rw [isPayload, List.getElem?_cons_succ, List.getElem?_append_left (by omega)]
  have fourth (four : 4 ≤ taken.length) : frame.payload[4]? = taken[3]? := by
    rw [isPayload, List.getElem?_cons_succ, List.getElem?_append_left (by omega)]
  constructor
  · rintro ⟨-, other, announced, isAnnounced, long⟩ same
    rw [second] at other
    rw [fourth (string.mpr other)] at isAnnounced
    have short := (withCutLength_eq_iff taken).mp same announced isAnnounced
    omega
  · intro cut
    rw [Ne, withCutLength_eq_iff] at cut
    push Not at cut
    obtain ⟨announced, isAnnounced, long⟩ := cut
    have four : 4 ≤ taken.length := (List.getElem?_eq_some_iff.mp isAnnounced).1
    refine ⟨⟨type, by rw [isPayload]; rfl, isPlay⟩, ?_, announced, ?_, long⟩
    · rw [second]
      exact string.mp four
    · rw [fourth four, isAnnounced]

namespace Packet

/-- The encoder gives the packet a payload that `frame` begins with, and it comes back. -/
def Reencodes (packet : Packet) (frame : Frame) : Prop :=
  ∀ (heap : Heap) (h : Host), heap.NeverFails →
    ∃ made h', packet.toFrame heap h = some (some made, h') ∧ made.payload <+: frame.payload ∧
      ∀ (heap' : Heap) (h₁ : Host), heap'.NeverFails →
        ∃ h₂, fromFrame heap' made h₁ = some (some packet, h₂)

/-- **The only encoding**: an accepted payload begins with what the encoder, given memory, makes of
its packet, exactly when encoder and decoder agree on the packet and no string of PLAY was cut. -/
theorem reencodes_iff {heap : Heap} {frame : Frame} {h h' : Host} {packet : Packet}
    (holds : frame.payloadLength.toNat ≤ frame.body.length)
    (accepted : fromFrame heap frame h = some (some packet, h')) :
    packet.Reencodes frame ↔ packet.Lossless ∧ ¬ frame.CutsString := by
  obtain ⟨type, rest, isPayload, parsed⟩ := fromFrame_parsed holds accepted
  obtain ⟨taken, ⟨more, rfl⟩, decodes, determines, returns⟩ :=
    parsed _ ((parse_reads type).and ((parse_determined type).and (parse_returns type)))
  constructor
  · intro reencodes
    have roundTrips : packet.RoundTrips := fun heap h never => by
      obtain ⟨made, h', runs, -, back⟩ := reencodes heap h never
      exact ⟨made, h', runs, back⟩
    have never : Heap.NeverFails fun _ => some [] := fun _ => rfl
    obtain ⟨made, h', runs, front, -⟩ := reencodes _ ⟨0, [], [], 0, [], []⟩ never
    have encodes : packet.layouts.isSome := by
      obtain ⟨layouts, isSome, -⟩ := Option.bind_eq_some_iff.mp runs
      rw [isSome]
      rfl
    have lossless := (roundTrips_iff ⟨returns.counts encodes, decodes.fixedValue⟩).mp roundTrips
    refine ⟨lossless, fun cuts => ?_⟩
    -- A packet of PLAY, whose length the encoder writes as it was cut.
    obtain ⟨⟨type', isFirst, isPlay⟩, -, -⟩ := id cuts
    rw [isPayload, List.getElem?_cons_zero, Option.some.injEq] at isFirst
    obtain rfl := ByteEnum.byte_injective isFirst
    obtain ⟨⟨size, layouts⟩, isValue⟩ := returns.play isPlay
    obtain ⟨-, -, isWritten⟩ := payload_of_toFrame encodes lossless.notBattery runs
    rw [written, layouts] at isWritten
    have isMade : ByteEnum.byte packet.type :: withCutLength taken = made.payload :=
      Option.some.inj isWritten
    rw [← isMade, isPayload] at front
    have same : withCutLength taken <+: taken :=
      List.prefix_of_prefix_length_le (List.cons_prefix_cons.mp front).2 (List.prefix_append ..)
        (withCutLength_length taken).le
    exact (Frame.cutsString_iff isPayload isPlay isValue).mp cuts
      (same.eq_of_length (withCutLength_length taken))
  · rintro ⟨lossless, whole⟩ heap h never
    have written : Written packet.layouts taken := by
      cases isPlay : type.HasPlayValue with
      | false => exact returns.written lossless isPlay
      | true =>
        obtain ⟨written, isValue⟩ := returns.play isPlay
        rw [Frame.cutsString_iff isPayload isPlay isValue, Ne, not_not] at whole
        rwa [whole] at written
    obtain ⟨size, layouts⟩ := written
    obtain ⟨made, h', runs, isData, isMade⟩ := toFrame_payload lossless.notBattery layouts never h
    rw [decodes.isType] at isMade
    refine ⟨made, h', runs, ?_, fun heap' h₁ never' => ?_⟩
    · rw [isMade, isPayload]
      exact ⟨more, rfl⟩
    · exact fromFrame_of_accepts determines.accepts isData ⟨[], by rw [isMade, List.append_nil]⟩
        never' h₁

/-- `reencodes_iff` on a frame that has a byte behind its volume. -/
theorem reencodes_iff_volume :
    Reencodes (.playNtfyParam ⟨.playbackController, .volume 7⟩)
        ⟨0x0c, 0, 5, [0xa9, 0x01, 0x20, 0x07, 0x55, 0xbe]⟩ ↔
      Lossless (.playNtfyParam ⟨.playbackController, .volume 7⟩) ∧
        ¬ Frame.CutsString ⟨0x0c, 0, 5, [0xa9, 0x01, 0x20, 0x07, 0x55, 0xbe]⟩ :=
  @reencodes_iff (fun _ => some []) ⟨0x0c, 0, 5, [0xa9, 0x01, 0x20, 0x07, 0x55, 0xbe]⟩
    ⟨0, [], [], 0, [], []⟩ ⟨0, [], [], 1, [], []⟩ _ (by decide) rfl

end Packet

end Libmdr
