import Libmdr.Lib.Pieces
import Libmdr.Packet.Reading
import Libmdr.Packet.WellFormed

/-!
# Encoding packets

Each encoder states the size of its frame apart from the bytes it writes. `Fills`
compares the two for every frame that an encoder makes: they agree, but for the
battery level of COMMON packets, where the inquired type is counted and not written.
-/

namespace Libmdr
set_option autoImplicit false

/-! ## Sizes and bytes -/

theorem counted_length {α : Type} {count : UInt8} {array elements : List α}
    (isCounted : counted count array = some elements) : elements.length = count.toNat := by
  unfold counted at isCounted
  by_cases enough : count.toNat ≤ array.length
  · rw [if_pos enough] at isCounted
    obtain rfl := Option.some.inj isCounted
    rw [List.length_take, Nat.min_eq_left enough]
  · rw [if_neg enough] at isCounted
    cases isCounted

/-- An array as long as its count is taken whole. -/
theorem counted_of_length {α : Type} {count : UInt8} {array : List α}
    (length : array.length = count.toNat) : counted count array = some array := by
  unfold counted
  rw [if_pos (Nat.le_of_eq length.symm), List.take_of_length_le (Nat.le_of_eq length)]

/-- What is made of the elements is made of the whole array. -/
theorem counted_eq_some {α β : Type} {count : UInt8} {array : List α} {encode : List α → β}
    (length : array.length = count.toNat) :
    ((counted count array).bind fun elements => some (encode elements)) = some (encode array) := by
  rw [counted_of_length length]
  rfl

theorem counted_isSome {α β : Type} {count : UInt8} {array : List α} {encode : List α → β}
    (length : array.length = count.toNat) :
    ((counted count array).bind fun elements => some (encode elements)).isSome := by
  rw [counted_eq_some length]
  rfl

theorem byte_toNat_le (n : UInt8) : n.toNat ≤ 255 := Nat.le_of_lt_succ n.toNat_lt

/-- An encoder makes a frame at all, and every frame it makes is written but for its
last `unset` bytes. -/
def Fills (unset : Nat) (made : Option (List Layout)) : Prop :=
  ∀ layouts, made = some layouts → layouts ≠ [] ∧
    ∀ layout ∈ layouts, layout.bytes.length + unset = layout.size ∧ layout.size < 2 ^ 26

namespace Fills

variable {α : Type} {unset : Nat}

theorem frame {size : Nat} {bytes : List UInt8} (written : bytes.length + unset = size)
    (small : size < 2 ^ 26) : Fills unset (some [⟨size, bytes⟩]) := by
  rintro layouts ⟨⟩
  refine ⟨List.cons_ne_nil _ _, ?_⟩
  intro layout isIn
  obtain rfl := List.mem_singleton.mp isIn
  exact ⟨written, small⟩

theorem bind {first : Option α} {next : α → Option (List Layout)}
    (fills : ∀ a, first = some a → Fills unset (next a)) : Fills unset (first.bind next) := by
  intro layouts isMade
  obtain ⟨a, isFirst, isNext⟩ := Option.bind_eq_some_iff.mp isMade
  exact fills a isFirst layouts isNext

/-- A counted array behind some fields of fixed size, a byte for each element. -/
theorem counted {count : UInt8} {array : List α} {size : Nat} {fields : List UInt8}
    {encode : List α → List UInt8}
    (each : ∀ elements, (encode elements).length = elements.length)
    (isSize : fields.length = size) (small : size < 2 ^ 16) :
    Fills 0 ((counted count array).bind fun elements =>
      some [⟨size + count.toNat, fields ++ encode elements⟩]) := by
  apply bind
  intro elements isCounted
  have short := byte_toNat_le count
  apply frame
  · rw [Nat.add_zero, List.length_append, each, counted_length isCounted, isSize]
  · omega

end Fills

/-! ## Encoders -/

theorem writeConnectRetDeviceInfo_fills (packet : ConnectRetDeviceInfo) :
    Fills 0 (writeConnectRetDeviceInfo packet) := by
  cases packet with
  | modelName name => exact .counted (fun _ => rfl) rfl (by decide)
  | fwVersion version => exact .counted (fun _ => rfl) rfl (by decide)
  | seriesAndColor info => exact .frame rfl (by decide)
  | instructionGuide guide => exact .counted (fun _ => List.length_map _) rfl (by decide)

theorem writeConnectRetSupportFunction_fills (packet : ConnectRetSupportFunction) :
    Fills 0 (writeConnectRetSupportFunction packet) :=
  .counted (fun _ => List.length_map _) rfl (by decide)

/-- A battery status on the wire. -/
def BatteryStatus.encoded (status : BatteryStatus) : List UInt8 := [status.level, status.charging]

/-- The levels on the wire, behind the inquired type. -/
def CommonRetBatteryLevel.encoded : CommonRetBatteryLevel → List UInt8
  | .battery status | .cradleBattery status => status.encoded
  | .leftRightBattery status => status.left.encoded ++ status.right.encoded

/-- The inquired type has its place in the size only. -/
theorem writeCommonRetBatteryLevel_fills (packet : CommonRetBatteryLevel) :
    Fills 1 (writeCommonRetBatteryLevel packet) := by
  cases packet with
  | battery status => exact .frame rfl (by decide)
  | leftRightBattery status => exact .frame rfl (by decide)
  | cradleBattery status => exact .frame rfl (by decide)

theorem writeCommonRetConnectionStatus_fills (packet : CommonRetConnectionStatus) :
    Fills 0 (writeCommonRetConnectionStatus packet) := by
  cases packet
  exact .frame rfl (by decide)

theorem writeEqebbCapabilityEqPresetName_length {preset : EqebbCapabilityEqPresetName}
    {piece : List UInt8} (written : writeEqebbCapabilityEqPresetName preset = some piece) :
    piece.length = 2 + preset.nameLen.toNat := by
  obtain ⟨name, isCounted, last⟩ := Option.bind_eq_some_iff.mp written
  obtain rfl := Option.some.inj last
  rw [List.length_append, counted_length isCounted]
  rfl

theorem writeEqebbCapabilityEq_fills (inquiredType : UInt8) (eq : EqebbCapabilityEq) :
    Fills 0 (writeEqebbCapabilityEq inquiredType eq) := by
  apply Fills.bind
  intro presets isCounted
  apply Fills.bind
  intro pieces written
  have count := counted_length isCounted
  have few := byte_toNat_le eq.numPresets
  have lengths : pieces.flatten.length
      = (presets.map fun preset => 2 + preset.nameLen.toNat).sum :=
    Pieces.length_flatten_map written fun _ _ => writeEqebbCapabilityEqPresetName_length
  have small : (presets.map fun preset => 2 + preset.nameLen.toNat).sum ≤ presets.length * 257 := by
    rw [← List.length_map (f := fun preset => 2 + preset.nameLen.toNat)]
    apply Pieces.sum_le
    intro n isIn
    obtain ⟨preset, -, rfl⟩ := List.mem_map.mp isIn
    have short := byte_toNat_le preset.nameLen
    omega
  apply Fills.frame
  · rw [Nat.add_zero, List.length_append, lengths]
    rfl
  · omega

theorem writeEqebbRetCapability_fills (packet : EqebbRetCapability) :
    Fills 0 (writeEqebbRetCapability packet) := by
  cases packet with
  | presetEq eq => exact writeEqebbCapabilityEq_fills _ eq
  | ebb ebb => exact .frame rfl (by decide)
  | presetEqNoncustomizable eq => exact writeEqebbCapabilityEq_fills _ eq

theorem writeEqebbRetParam_fills (packet : EqebbRetParam) : Fills 0 (writeEqebbRetParam packet) := by
  cases packet with
  | presetEq eq => exact .counted (fun _ => rfl) rfl (by decide)
  | ebb ebb => exact .frame rfl (by decide)
  | presetEqNoncustomizable eq => exact .counted (fun _ => rfl) rfl (by decide)

theorem writeNcasmRetParam_fills (packet : NcasmRetParam) : Fills 0 (writeNcasmRetParam packet) := by
  cases packet with
  | noiseCancelling param => exact .frame rfl (by decide)
  | noiseCancellingAsm param => exact .frame rfl (by decide)
  | ambientSoundMode param => exact .frame rfl (by decide)

theorem writePlayRetParam_fills (packet : PlayRetParam) : Fills 0 (writePlayRetParam packet) := by
  obtain ⟨inquiredType, value⟩ := packet
  cases value with
  | volume volume => exact .frame rfl (by decide)
  | trackName string => exact .counted (fun _ => rfl) rfl (by decide)
  | albumName string => exact .counted (fun _ => rfl) rfl (by decide)
  | artistName string => exact .counted (fun _ => rfl) rfl (by decide)
  | genreName string => exact .counted (fun _ => rfl) rfl (by decide)
  | playerName string => exact .counted (fun _ => rfl) rfl (by decide)

theorem writeSystemAssignableSettingsCapabilityPreset_length
    {preset : SystemAssignableSettingsCapabilityPreset} {piece : List UInt8}
    (written : writeSystemAssignableSettingsCapabilityPreset preset = some piece) :
    piece.length = 2 + preset.numCapabilityActions.toNat * 2 := by
  obtain ⟨actions, isCounted, last⟩ := Option.bind_eq_some_iff.mp written
  obtain rfl := Option.some.inj last
  have two : (actions.map fun action =>
      (writeSystemAssignableSettingsCapabilityAction action).length) = List.replicate actions.length 2 :=
    List.map_eq_replicate_iff.mpr fun _ _ => rfl
  rw [List.length_append, List.length_flatMap, two, List.sum_replicate_nat,
    counted_length isCounted]
  rfl

/-- The length that is added up for a key is that of the bytes written for it. -/
theorem writeSystemAssignableSettingsCapabilityKey_length
    {key : SystemAssignableSettingsCapabilityKey} {length : Nat} {piece : List UInt8}
    (isLength : systemAssignableSettingsKeyLength key = some length)
    (written : writeSystemAssignableSettingsCapabilityKey key = some piece) :
    piece.length = length ∧ length ≤ 4 + 255 * 512 := by
  obtain ⟨presets, isCounted, last⟩ := Option.bind_eq_some_iff.mp isLength
  obtain rfl := Option.some.inj last
  obtain ⟨same, isCounted', written⟩ := Option.bind_eq_some_iff.mp written
  obtain rfl := Option.some.inj (isCounted.symm.trans isCounted')
  obtain ⟨pieces, made, last⟩ := Option.bind_eq_some_iff.mp written
  obtain rfl := Option.some.inj last
  have count := counted_length isCounted
  have few := byte_toNat_le key.numCapabilityPresets
  have lengths : pieces.flatten.length
      = (presets.map fun preset => 2 + preset.numCapabilityActions.toNat * 2).sum :=
    Pieces.length_flatten_map made fun _ _ => writeSystemAssignableSettingsCapabilityPreset_length
  constructor
  · rw [List.length_append, lengths]
    rfl
  · have small : (presets.map fun preset => 2 + preset.numCapabilityActions.toNat * 2).sum
        ≤ presets.length * 512 := by
      rw [← List.length_map (f := fun preset => 2 + preset.numCapabilityActions.toNat * 2)]
      apply Pieces.sum_le
      intro n isIn
      obtain ⟨preset, -, rfl⟩ := List.mem_map.mp isIn
      have short := byte_toNat_le preset.numCapabilityActions
      omega
    omega

theorem writeSystemCapabilityAssignableSettings_fills (inquiredType : UInt8)
    (capability : SystemCapabilityAssignableSettings) :
    Fills 0 ((writeSystemCapabilityAssignableSettings inquiredType capability).bind
      fun layout => some [layout]) := by
  apply Fills.bind
  intro layout isLayout
  obtain ⟨keys, isCounted, isLayout⟩ := Option.bind_eq_some_iff.mp isLayout
  obtain ⟨lengths, isLengths, isLayout⟩ := Option.bind_eq_some_iff.mp isLayout
  obtain ⟨pieces, made, last⟩ := Option.bind_eq_some_iff.mp isLayout
  obtain rfl := Option.some.inj last
  have count := counted_length isCounted
  have few := byte_toNat_le capability.numCapabilityKeys
  have agree : pieces.flatten.length = lengths.sum :=
    Pieces.length_flatten isLengths made fun _ _ _ isLength written =>
      (writeSystemAssignableSettingsCapabilityKey_length isLength written).1
  have small : lengths.sum ≤ lengths.length * (4 + 255 * 512) := by
    apply Pieces.sum_le
    intro n isIn
    obtain ⟨key, isKey, isLength⟩ := Pieces.mapM_mem isLengths isIn
    obtain ⟨piece, written⟩ := Pieces.mapM_some_of_mem made isKey
    exact (writeSystemAssignableSettingsCapabilityKey_length isLength written).2
  rw [Pieces.mapM_length isLengths] at small
  apply Fills.frame
  · rw [Nat.add_zero, List.length_append, agree]
    rfl
  · omega

theorem writeSystemRetCapability_fills (packet : SystemRetCapability) :
    Fills 0 (writeSystemRetCapability packet) := by
  cases packet with
  | vibrator capability => exact .frame rfl (by decide)
  | powerSavingMode capability => exact .frame rfl (by decide)
  | controlByWearing capability => exact .frame rfl (by decide)
  | autoPowerOff capability => exact .counted (fun _ => List.length_map _) rfl (by decide)
  | smartTalkingMode capability =>
    -- both frames, the one that is lost and the one that is returned
    unfold writeSystemRetCapability
    apply Fills.bind
    intro again isAgain
    rintro layouts ⟨⟩
    refine ⟨List.cons_ne_nil _ _, ?_⟩
    intro layout isIn
    rcases List.mem_cons.mp isIn with rfl | isIn
    · refine ⟨?_, show 11 < 2 ^ 26 by decide⟩
      simp
    · have fills := writeSystemCapabilityAssignableSettings_fills
        (ByteEnum.byte (SystemRetCapability.smartTalkingMode capability).inquiredType)
        { numCapabilityKeys := ByteEnum.byte capability.settingType, capabilityKeys := [] }
      rw [isAgain] at fills
      exact (fills _ rfl).2 layout isIn
  | assignableSettings capability => exact writeSystemCapabilityAssignableSettings_fills _ capability

theorem writeSystemRetParam_fills (packet : SystemRetParam) :
    Fills 0 (writeSystemRetParam packet) := by
  cases packet with
  | vibrator param => exact .frame rfl (by decide)
  | powerSavingMode param => exact .frame rfl (by decide)
  | controlByWearing param => exact .frame rfl (by decide)
  | autoPowerOff param => exact .frame rfl (by decide)
  | smartTalkingMode param => exact .frame rfl (by decide)
  | assignableSettings param => exact .counted (fun _ => List.length_map _) rfl (by decide)

namespace Packet

/-- A battery level, as an answer or as a notification. -/
def IsBatteryLevel (packet : Packet) : Prop :=
  packet.type = .commonRetBatteryLevel ∨ packet.type = .commonNtfyBatteryLevel

instance (packet : Packet) : Decidable packet.IsBatteryLevel :=
  inferInstanceAs (Decidable (_ ∨ _))

/-- The sizes of every encoder: the payload is filled, but for one byte of a battery
level. -/
theorem layouts_fills (packet : Packet) :
    Fills (if packet.IsBatteryLevel then 1 else 0) packet.layouts := by
  cases packet with
  | connectGetProtocolInfo data => exact .frame rfl (by decide)
  | connectRetProtocolInfo data => exact .frame rfl (by decide)
  | connectGetDeviceInfo data => exact .frame rfl (by decide)
  | connectRetDeviceInfo data => exact writeConnectRetDeviceInfo_fills data
  | connectGetSupportFunction data => exact .frame rfl (by decide)
  | connectRetSupportFunction data => exact writeConnectRetSupportFunction_fills data
  | commonGetBatteryLevel data => exact .frame rfl (by decide)
  | commonRetBatteryLevel data => exact writeCommonRetBatteryLevel_fills data
  | commonNtfyBatteryLevel data => exact writeCommonRetBatteryLevel_fills data
  | commonSetPowerOff data => exact .frame rfl (by decide)
  | commonGetConnectionStatus data => exact .frame rfl (by decide)
  | commonRetConnectionStatus data => exact writeCommonRetConnectionStatus_fills data
  | commonNtfyConnectionStatus data => exact writeCommonRetConnectionStatus_fills data
  | eqebbGetCapability data => exact .frame rfl (by decide)
  | eqebbRetCapability data => exact writeEqebbRetCapability_fills data
  | eqebbGetParam data => exact .frame rfl (by decide)
  | eqebbRetParam data => exact writeEqebbRetParam_fills data
  | eqebbSetParam data => exact writeEqebbRetParam_fills data
  | eqebbNtfyParam data => exact writeEqebbRetParam_fills data
  | ncasmGetParam data => exact .frame rfl (by decide)
  | ncasmRetParam data => exact writeNcasmRetParam_fills data
  | ncasmSetParam data => exact writeNcasmRetParam_fills data
  | ncasmNtfyParam data => exact writeNcasmRetParam_fills data
  | playGetParam data => exact .frame rfl (by decide)
  | playRetParam data => exact writePlayRetParam_fills data
  | playSetParam data => exact writePlayRetParam_fills data
  | playNtfyParam data => exact writePlayRetParam_fills data
  | systemGetCapability data => exact .frame rfl (by decide)
  | systemRetCapability data => exact writeSystemRetCapability_fills data
  | systemGetParam data => exact .frame rfl (by decide)
  | systemRetParam data => exact writeSystemRetParam_fills data
  | systemSetParam data => exact writeSystemRetParam_fills data
  | systemNtfyParam data => exact writeSystemRetParam_fills data

end Packet

/-! ## An encoder makes a frame of every packet whose counts match -/

theorem writeEqebbRetCapability_isSome {packet : EqebbRetCapability} (counts : packet.CountsMatch) :
    (writeEqebbRetCapability packet).isSome := by
  have ofEq : ∀ inquiredType (eq : EqebbCapabilityEq), eq.CountsMatch →
      (writeEqebbCapabilityEq inquiredType eq).isSome := by
    intro inquiredType eq counts
    have names := Pieces.mapM_isSome (f := writeEqebbCapabilityEqPresetName) fun preset isIn => by
      rw [writeEqebbCapabilityEqPresetName, counted_of_length (counts.2 preset isIn)]
      rfl
    obtain ⟨pieces, made⟩ := Option.isSome_iff_exists.mp names
    rw [writeEqebbCapabilityEq, counted_of_length counts.1]
    simp [made]
  cases packet with
  | presetEq eq => exact ofEq _ eq counts
  | ebb ebb => rfl
  | presetEqNoncustomizable eq => exact ofEq _ eq counts

/-- A preset on the wire: its id, the number of actions, and two bytes for each. -/
def SystemAssignableSettingsCapabilityPreset.encoded
    (preset : SystemAssignableSettingsCapabilityPreset) : List UInt8 :=
  ByteEnum.byte preset.preset :: preset.numCapabilityActions ::
    preset.capabilityActions.flatMap writeSystemAssignableSettingsCapabilityAction

/-- A key on the wire: three fields, the number of presets and the presets. -/
def SystemAssignableSettingsCapabilityKey.encoded (key : SystemAssignableSettingsCapabilityKey) :
    List UInt8 :=
  ByteEnum.byte key.key :: ByteEnum.byte key.keyType :: ByteEnum.byte key.defaultPreset ::
    key.numCapabilityPresets ::
      key.capabilityPresets.flatMap SystemAssignableSettingsCapabilityPreset.encoded

/-- The keys on the wire, behind their number. -/
def SystemCapabilityAssignableSettings.encoded (capability : SystemCapabilityAssignableSettings) :
    List UInt8 :=
  capability.numCapabilityKeys ::
    capability.capabilityKeys.flatMap SystemAssignableSettingsCapabilityKey.encoded

theorem writeSystemAssignableSettingsCapabilityPreset_eq
    {preset : SystemAssignableSettingsCapabilityPreset} (counts : preset.CountsMatch) :
    writeSystemAssignableSettingsCapabilityPreset preset = some preset.encoded := by
  rw [writeSystemAssignableSettingsCapabilityPreset, counted_of_length counts]
  rfl

theorem writeSystemAssignableSettingsCapabilityKey_eq
    {key : SystemAssignableSettingsCapabilityKey} (counts : key.CountsMatch) :
    writeSystemAssignableSettingsCapabilityKey key = some key.encoded := by
  have presets := Pieces.mapM_of_forall fun preset isIn =>
    writeSystemAssignableSettingsCapabilityPreset_eq (counts.2 preset isIn)
  rw [writeSystemAssignableSettingsCapabilityKey, counted_of_length counts.1]
  simp only [Option.bind_eq_bind, Option.bind_some, presets]
  rw [← List.flatMap_def]
  rfl

/-- The size is added up in a loop of its own, so only the bytes are given here. -/
theorem writeSystemCapabilityAssignableSettings_eq (inquiredType : UInt8)
    {capability : SystemCapabilityAssignableSettings} (counts : capability.CountsMatch) :
    ∃ size, writeSystemCapabilityAssignableSettings inquiredType capability
      = some ⟨size, inquiredType :: capability.encoded⟩ := by
  have lengths := Pieces.mapM_isSome (f := systemAssignableSettingsKeyLength) fun key isIn => by
    rw [systemAssignableSettingsKeyLength, counted_of_length (counts.2 key isIn).1]
    rfl
  obtain ⟨sizes, isSizes⟩ := Option.isSome_iff_exists.mp lengths
  have keys := Pieces.mapM_of_forall fun key isIn =>
    writeSystemAssignableSettingsCapabilityKey_eq (counts.2 key isIn)
  rw [writeSystemCapabilityAssignableSettings, counted_of_length counts.1]
  simp only [Option.bind_eq_bind, Option.bind_some, isSizes, keys]
  rw [← List.flatMap_def]
  exact ⟨_, rfl⟩

theorem writeSystemRetCapability_isSome {packet : SystemRetCapability}
    (counts : packet.CountsMatch) : (writeSystemRetCapability packet).isSome := by
  cases packet with
  | autoPowerOff capability => exact counted_isSome counts
  | assignableSettings capability =>
    obtain ⟨size, isLayout⟩ := writeSystemCapabilityAssignableSettings_eq
      (ByteEnum.byte (SystemRetCapability.assignableSettings capability).inquiredType) counts
    rw [writeSystemRetCapability, isLayout]
    rfl
  | _ => rfl

namespace Packet

theorem layouts_isSome {packet : Packet} (counts : packet.CountsMatch) : packet.layouts.isSome := by
  cases packet with
  | connectRetDeviceInfo data =>
    cases data with
    | seriesAndColor info => rfl
    | _ => exact counted_isSome counts
  | connectRetSupportFunction data => exact counted_isSome counts
  | eqebbRetCapability data => exact writeEqebbRetCapability_isSome counts
  | eqebbRetParam data | eqebbSetParam data | eqebbNtfyParam data =>
    cases data with
    | ebb ebb => rfl
    | _ => exact counted_isSome counts
  | playRetParam data | playSetParam data | playNtfyParam data =>
    obtain ⟨inquiredType, value⟩ := data
    cases value with
    | volume volume => rfl
    | _ => exact counted_isSome counts
  | systemRetCapability data => exact writeSystemRetCapability_isSome counts
  | systemRetParam data | systemSetParam data | systemNtfyParam data =>
    cases data with
    | assignableSettings param => exact counted_isSome counts
    | _ => rfl
  | commonRetBatteryLevel data | commonNtfyBatteryLevel data => cases data <;> rfl
  | commonRetConnectionStatus data | commonNtfyConnectionStatus data => cases data; rfl
  | ncasmRetParam data | ncasmSetParam data | ncasmNtfyParam data => cases data <;> rfl
  | _ => rfl

end Packet

/-! ## What is in the frame -/

theorem blockBytes_length (junk : List UInt8) (n : Nat) : (blockBytes junk n).length = n := by
  rw [blockBytes, List.length_take, List.length_append, List.length_replicate]
  omega

/-- A frame as the encoder leaves it: the type byte and the bytes written stand in front,
the rest of the payload and the checksum byte are what the block held. -/
structure Layout.In (layout : Layout) (type : UInt8) (frame : Frame) : Prop where
  dataType : frame.dataType = frameDataTypeDataMdr
  sequenceId : frame.sequenceId = 0
  payloadLength : frame.payloadLength.toNat = 1 + layout.size
  body : frame.body.length = layout.size + 2
  front : type :: layout.bytes <+: frame.body

theorem Layout.write_spec (heap : Heap) (type : UInt8) {layout : Layout} (h : Host)
    (inside : layout.bytes.length ≤ layout.size) (small : layout.size < 2 ^ 26) :
    ∃ made h', layout.write heap type h = some (made, h') ∧
      (Heap.NeverFails heap → made.isSome) ∧ ∀ frame, made = some frame → layout.In type frame := by
  unfold Layout.write
  rcases allocated : h.malloc heap with ⟨_ | junk, h'⟩
  · refine ⟨none, h', rfl, ?_, fun frame isMade => nomatch isMade⟩
    intro never
    have block := never.malloc h
    rwa [allocated] at block
  · have length : ((blockBytes junk (8 + layout.size)).drop 6).length = layout.size + 2 := by
      rw [List.length_drop, blockBytes_length]
      omega
    have enough : ¬ ((blockBytes junk (8 + layout.size)).drop 6).length
        < (type :: layout.bytes).length := by
      rw [length, List.length_cons]
      omega
    simp only [if_neg enough]
    refine ⟨_, h', rfl, fun _ => rfl, ?_⟩
    rintro frame ⟨⟩
    refine ⟨rfl, rfl, ?_, ?_, List.prefix_append _ _⟩
    · rw [UInt32.toNat_ofNat']
      omega
    · rw [List.length_append, List.length_drop, length, List.length_cons]
      omega

/-- Several frames one after the other: the last one is returned. -/
theorem writeFrames_spec (heap : Heap) (type : UInt8) {layouts : List Layout} (h : Host)
    (nonempty : layouts ≠ [])
    (fits : ∀ layout ∈ layouts, layout.bytes.length ≤ layout.size ∧ layout.size < 2 ^ 26) :
    ∃ made h', writeFrames heap type layouts h = some (made, h') ∧
      (Heap.NeverFails heap → made.isSome) ∧
      ∀ frame, made = some frame → (layouts.getLast nonempty).In type frame := by
  induction layouts generalizing h with
  | nil => exact absurd rfl nonempty
  | cons layout rest ih =>
    obtain ⟨inside, small⟩ := fits layout List.mem_cons_self
    obtain ⟨made, h', written, isMade, spec⟩ := layout.write_spec heap type h inside small
    cases rest with
    | nil => exact ⟨made, h', written, isMade, spec⟩
    | cons next others =>
      simp only [writeFrames, written]
      cases made with
      | none => exact ⟨none, h', rfl, isMade, fun frame isFrame => nomatch isFrame⟩
      | some lost =>
        obtain ⟨made, h'', written, isMade, spec⟩ := ih h' (List.cons_ne_nil _ _) fun layout isIn =>
          fits layout (List.mem_cons_of_mem _ isIn)
        exact ⟨made, h'', written, isMade, spec⟩

/-- The allocations from the `m`-th up to the `n`-th succeed. -/
def Heap.Serves (heap : Heap) (m n : Nat) : Prop := ∀ i, m ≤ i → i < n → (heap i).isSome

theorem Heap.serves_succ {heap : Heap} {m n : Nat} (less : m < n) :
    heap.Serves m n ↔ (heap m).isSome ∧ heap.Serves (m + 1) n := by
  constructor
  · exact fun serves => ⟨serves m (Nat.le_refl m) less, fun i above => serves i (by omega)⟩
  · rintro ⟨first, rest⟩ i above below
    rcases Nat.eq_or_lt_of_le above with rfl | later
    · exact first
    · exact rest i later below

theorem Layout.write_mallocs {heap : Heap} {type : UInt8} {layout : Layout} {h h' : Host}
    {made : Option Frame} (run : layout.write heap type h = some (made, h')) :
    h'.mallocs = h.mallocs + 1 ∧ made.isSome = (heap h.mallocs).isSome := by
  unfold Layout.write Host.malloc at run
  cases block : heap h.mallocs with
  | none =>
    simp only [block] at run
    cases run
    exact ⟨rfl, rfl⟩
  | some junk =>
    simp only [block] at run
    obtain ⟨-, run⟩ := Option.ite_none_left_eq_some.mp run
    cases run
    exact ⟨rfl, rfl⟩

/-- An encoder returns a frame if and only if each of its allocations succeeds. -/
theorem writeFrames_serves {heap : Heap} {type : UInt8} {layouts : List Layout} {h h' : Host}
    {made : Option Frame} (nonempty : layouts ≠ [])
    (run : writeFrames heap type layouts h = some (made, h')) :
    h.mallocs < h'.mallocs ∧ (made.isSome ↔ heap.Serves h.mallocs h'.mallocs) := by
  induction layouts generalizing h with
  | nil => exact absurd rfl nonempty
  | cons layout rest ih =>
    cases rest with
    | nil =>
      obtain ⟨mallocs, isMade⟩ := layout.write_mallocs run
      rw [mallocs, Heap.serves_succ (Nat.lt_succ_self _), isMade]
      exact ⟨Nat.lt_succ_self _, fun first => ⟨first, fun i above below => by omega⟩, And.left⟩
    | cons next others =>
      obtain ⟨⟨first, t⟩, written, run⟩ := Option.bind_eq_some_iff.mp run
      obtain ⟨mallocs, isMade⟩ := layout.write_mallocs written
      cases first with
      | none =>
        cases run
        rw [mallocs, Heap.serves_succ (Nat.lt_succ_self _), ← isMade]
        exact ⟨Nat.lt_succ_self _, (fun isSome => by cases isSome), And.left⟩
      | some lost =>
        obtain ⟨less, serves⟩ := ih (List.cons_ne_nil _ _) run
        rw [mallocs] at less serves
        refine ⟨Nat.lt_of_succ_lt less, ?_⟩
        rw [Heap.serves_succ (Nat.lt_of_succ_lt less), ← isMade, serves]
        exact (and_iff_right rfl).symm

namespace Packet

/-- What the encoder of a packet writes from payload byte 0 on into the frame that it
returns. -/
def written (packet : Packet) : Option (List UInt8) := do
  let layouts ← packet.layouts
  let layout ← layouts.getLast?
  return ByteEnum.byte packet.type :: layout.bytes

/-- A frame from an encoder: its size, and the bytes written in front. -/
structure Makes (packet : Packet) (written : List UInt8) (frame : Frame) : Prop where
  dataType : frame.dataType = frameDataTypeDataMdr
  sequenceId : frame.sequenceId = 0
  payloadLength :
    frame.payloadLength.toNat = written.length + if packet.IsBatteryLevel then 1 else 0
  small : frame.payloadLength.toNat ≤ 2 ^ 26
  body : frame.body.length = frame.payloadLength.toNat + 1
  front : written <+: frame.body

theorem toFrame_spec {packet : Packet} (heap : Heap) (h : Host) (encodes : packet.layouts.isSome) :
    ∃ made h' written, packet.toFrame heap h = some (made, h') ∧ packet.written = some written ∧
      (Heap.NeverFails heap → made.isSome) ∧
      ∀ frame, made = some frame → packet.Makes written frame := by
  obtain ⟨layouts, isLayouts⟩ := Option.isSome_iff_exists.mp encodes
  obtain ⟨nonempty, fills⟩ := packet.layouts_fills layouts isLayouts
  have fits : ∀ layout ∈ layouts, layout.bytes.length ≤ layout.size ∧ layout.size < 2 ^ 26 := by
    intro layout isIn
    obtain ⟨fill, small⟩ := fills layout isIn
    exact ⟨by omega, small⟩
  obtain ⟨made, h', runs, isMade, spec⟩ :=
    writeFrames_spec heap (ByteEnum.byte packet.type) h nonempty fits
  refine ⟨made, h', ByteEnum.byte packet.type :: (layouts.getLast nonempty).bytes, ?_, ?_, isMade, ?_⟩
  · rw [toFrame, isLayouts]
    exact runs
  · rw [Packet.written, isLayouts]
    simp [List.getLast?_eq_some_getLast nonempty]
  · intro frame isFrame
    have layout := spec frame isFrame
    obtain ⟨fill, small⟩ := fills _ (List.getLast_mem nonempty)
    have length := layout.payloadLength
    have body := layout.body
    refine ⟨layout.dataType, layout.sequenceId, ?_, ?_, ?_, layout.front⟩
    · rw [length, List.length_cons, ← fill]
      omega
    · omega
    · omega

/-- `mdr_packet_to_frame` of a packet accesses nothing outside an allocation, and what it
has written into a frame that it returns are exactly the bytes of the payload. -/
def FillsFrame (packet : Packet) : Prop :=
  ∀ (heap : Heap) (h : Host), ∃ made h', packet.toFrame heap h = some (made, h') ∧
    ∀ frame, made = some frame → ∃ written, packet.written = some written ∧
      written.length = frame.payloadLength.toNat ∧ frame.payload = written

/-- The encoders fill their frames exactly, but for the battery levels, whose frames have
one payload byte that nothing is written to. -/
theorem fillsFrame_iff {packet : Packet} (counts : packet.CountsMatch) :
    packet.FillsFrame ↔ ¬ packet.IsBatteryLevel := by
  have encodes := layouts_isSome counts
  constructor
  · intro fills isBattery
    have never : Heap.NeverFails fun _ => some [] := fun _ => rfl
    let h : Host := { errno := 0, reads := [], writes := [], mallocs := 0, wire := [], got := [] }
    obtain ⟨made, h', written, runs, isWritten, isMade, spec⟩ := toFrame_spec (fun _ => some []) h encodes
    obtain ⟨frame, isFrame⟩ := Option.isSome_iff_exists.mp (isMade never)
    have makes := (spec frame isFrame).payloadLength
    obtain ⟨made', h'', runs', filled⟩ := fills (fun _ => some []) h
    obtain ⟨rfl, -⟩ := Prod.mk.inj (Option.some.inj (runs.symm.trans runs'))
    obtain ⟨written', isWritten', length, -⟩ := filled frame isFrame
    obtain rfl := Option.some.inj (isWritten.symm.trans isWritten')
    rw [if_pos isBattery] at makes
    omega
  · intro notBattery heap h
    obtain ⟨made, h', written, runs, isWritten, -, spec⟩ := toFrame_spec heap h encodes
    refine ⟨made, h', runs, ?_⟩
    intro frame isFrame
    have makes := spec frame isFrame
    have length := makes.payloadLength
    rw [if_neg notBattery, Nat.add_zero] at length
    refine ⟨written, isWritten, length.symm, ?_⟩
    rw [Frame.payload, length]
    exact (List.prefix_iff_eq_take.mp makes.front).symm

/-- The answer to a battery level: the byte behind level and charging is not written. -/
theorem not_fillsFrame_battery_level :
    (commonRetBatteryLevel (.battery ⟨50, 0⟩)).CountsMatch ∧
      ¬ (commonRetBatteryLevel (.battery ⟨50, 0⟩)).FillsFrame := by
  refine ⟨trivial, ?_⟩
  intro fills
  obtain ⟨made, h', runs, filled⟩ := fills (fun _ => some [])
    { errno := 0, reads := [], writes := [], mallocs := 0, wire := [], got := [] }
  obtain ⟨rfl, -⟩ := Prod.mk.inj (Option.some.inj runs)
  obtain ⟨written, isWritten, length, -⟩ := filled _ rfl
  obtain rfl := Option.some.inj isWritten
  exact absurd length (by decide)

/-- `fillsFrame_iff` on an equalizer with two presets, one of them with a name, and on the battery
levels of two sides. -/
theorem fillsFrame_iff_presets :
    ((eqebbRetCapability (.presetEq
        ⟨5, 21, 2, [⟨.off, 3, [0x4f, 0x66, 0x66]⟩, ⟨.custom, 0, []⟩]⟩)).FillsFrame ↔
      ¬ (eqebbRetCapability (.presetEq
        ⟨5, 21, 2, [⟨.off, 3, [0x4f, 0x66, 0x66]⟩, ⟨.custom, 0, []⟩]⟩)).IsBatteryLevel) ∧
      ((commonRetBatteryLevel (.leftRightBattery ⟨⟨50, 0⟩, ⟨60, 1⟩⟩)).FillsFrame ↔
        ¬ (commonRetBatteryLevel (.leftRightBattery ⟨⟨50, 0⟩, ⟨60, 1⟩⟩)).IsBatteryLevel) := by
  have counts : EqebbCapabilityEq.CountsMatch
      ⟨5, 21, 2, [⟨.off, 3, [0x4f, 0x66, 0x66]⟩, ⟨.custom, 0, []⟩]⟩ := by
    refine ⟨rfl, ?_⟩
    intro preset isIn
    simp only [List.mem_cons, List.not_mem_nil, or_false] at isIn
    rcases isIn with rfl | rfl
    · rfl
    · rfl
  exact ⟨fillsFrame_iff counts, fillsFrame_iff trivial⟩

end Packet

end Libmdr
