import Libmdr.Packet.Roundtrip

/-!
# NCASM packets there and back

The encoder of the ambient sound layout writes the ASM id where the amount belongs. So it
encodes another packet, the one whose amount is the byte of the id (`asWritten`), and this
is what the decoder gives back. The other layouts agree.
-/

namespace Libmdr
set_option autoImplicit false

open Parse

/-- The parameter that the encoder writes. -/
def NcasmRetParam.asWritten : NcasmRetParam → NcasmRetParam
  | .ambientSoundMode param =>
    .ambientSoundMode { param with asmAmount := ByteEnum.byte param.asmId }
  | param => param

/-- An ambient sound parameter whose amount is not the byte of its ASM id. -/
def NcasmRetParam.LosesAmount : NcasmRetParam → Prop
  | .ambientSoundMode param => param.asmAmount ≠ ByteEnum.byte param.asmId
  | _ => False

theorem NcasmRetParam.asWritten_eq_iff (param : NcasmRetParam) :
    param.asWritten = param ↔ ¬ param.LosesAmount := by
  cases param with
  | noiseCancelling param => exact ⟨fun _ => id, fun _ => rfl⟩
  | noiseCancellingAsm param => exact ⟨fun _ => id, fun _ => rfl⟩
  | ambientSoundMode param =>
    obtain ⟨ncasmEffect, asmSettingType, asmId, asmAmount⟩ := param
    simp [asWritten, LosesAmount, eq_comm]

/-- Parameters that are the same but for the amount of the ambient sound layout. -/
def NcasmRetParam.SameButAmount : NcasmRetParam → NcasmRetParam → Prop
  | .ambientSoundMode a, .ambientSoundMode b => { a with asmAmount := b.asmAmount } = b
  | a, b => a = b

theorem NcasmRetParam.asWritten_inj {a b : NcasmRetParam} :
    a.asWritten = b.asWritten ↔ a.SameButAmount b := by
  cases a with
  | noiseCancelling a => cases b <;> simp [asWritten, SameButAmount]
  | noiseCancellingAsm a => cases b <;> simp [asWritten, SameButAmount]
  | ambientSoundMode a =>
    cases b with
    | noiseCancelling b => simp [asWritten, SameButAmount]
    | noiseCancellingAsm b => simp [asWritten, SameButAmount]
    | ambientSoundMode b =>
      obtain ⟨effect, settingType, asmId, amount⟩ := a
      obtain ⟨effect', settingType', asmId', amount'⟩ := b
      simp only [asWritten, SameButAmount, ambientSoundMode.injEq, NcasmParamAsm.mk.injEq, and_true]
      constructor
      · rintro ⟨isEffect, isType, isId, -⟩
        exact ⟨isEffect, isType, isId⟩
      · rintro ⟨isEffect, isType, isId⟩
        exact ⟨isEffect, isType, isId, by rw [isId]⟩

/-! ## What the encoder writes, the decoder accepts -/

theorem parseNcasmGetParam_accepts (packet : NcasmGetParam) :
    Accepts parseNcasmGetParam [ByteEnum.byte packet.inquiredType] packet :=
  .bind (.enum packet.inquiredType) (.pure _)

theorem parseNcasmParamNoiseCancelling_accepts (param : NcasmParamNoiseCancelling) :
    Accepts parseNcasmParamNoiseCancelling
      [ByteEnum.byte param.ncSettingType, ByteEnum.byte param.ncSettingValue] param :=
  .bind (.enum param.ncSettingType) (.bind (.enum param.ncSettingValue) (.pure _))

theorem parseNcasmParamNoiseCancellingAsm_accepts (param : NcasmParamNoiseCancellingAsm) :
    Accepts parseNcasmParamNoiseCancellingAsm
      [ByteEnum.byte param.ncasmEffect, ByteEnum.byte param.ncasmSettingType, param.ncasmAmount,
        ByteEnum.byte param.asmSettingType, ByteEnum.byte param.asmId, param.asmAmount] param :=
  .bind (.enum param.ncasmEffect) (.bind (.enum param.ncasmSettingType)
    (.bind (.byte param.ncasmAmount) (.bind (.enum param.asmSettingType)
      (.bind (.enum param.asmId) (.bind (.byte param.asmAmount) (.pure _))))))

theorem parseNcasmParamAsm_accepts (param : NcasmParamAsm) :
    Accepts parseNcasmParamAsm
      [ByteEnum.byte param.ncasmEffect, ByteEnum.byte param.asmSettingType,
        ByteEnum.byte param.asmId, param.asmAmount] param :=
  .bind (.enum param.ncasmEffect) (.bind (.enum param.asmSettingType)
    (.bind (.enum param.asmId) (.bind (.byte param.asmAmount) (.pure _))))

/-- What is read is the parameter as it was written. -/
theorem parseNcasmRetParam_accepts (packet : NcasmRetParam) : ∃ size bytes,
    writeNcasmRetParam packet = some [⟨size, bytes⟩] ∧
      Accepts parseNcasmRetParam bytes packet.asWritten := by
  cases packet with
  | noiseCancelling param =>
    exact ⟨_, _, rfl, .bind (.enum NcasmInquiredType.noiseCancelling)
      (.map _ (parseNcasmParamNoiseCancelling_accepts param))⟩
  | noiseCancellingAsm param =>
    exact ⟨_, _, rfl, .bind (.enum NcasmInquiredType.noiseCancellingAndAsm)
      (.map _ (parseNcasmParamNoiseCancellingAsm_accepts param))⟩
  | ambientSoundMode param =>
    exact ⟨_, _, rfl, .bind (.enum NcasmInquiredType.asm)
      (.map _ (parseNcasmParamAsm_accepts { param with asmAmount := ByteEnum.byte param.asmId }))⟩

/-! ## Packets -/

/-- The types of the NCASM family. -/
def PacketType.IsNcasm : PacketType → Prop
  | .ncasmGetParam | .ncasmRetParam | .ncasmSetParam | .ncasmNtfyParam => True
  | _ => False

namespace Packet

theorem not_isBatteryLevel_of_isNcasm {packet : Packet} (isNcasm : packet.type.IsNcasm) :
    ¬ packet.IsBatteryLevel :=
  not_isBatteryLevel_of isNcasm id id

/-- The packet that the encoder writes. -/
def ncasmAsWritten : Packet → Packet
  | .ncasmRetParam data => .ncasmRetParam data.asWritten
  | .ncasmSetParam data => .ncasmSetParam data.asWritten
  | .ncasmNtfyParam data => .ncasmNtfyParam data.asWritten
  | packet => packet

/-- An ambient sound parameter whose amount is not the byte of its ASM id. -/
def LosesAmount : Packet → Prop
  | .ncasmRetParam data | .ncasmSetParam data | .ncasmNtfyParam data => data.LosesAmount
  | _ => False

/-- Packets that are the same but for the amount of the ambient sound layout. -/
def SameButAmount : Packet → Packet → Prop
  | .ncasmRetParam a, .ncasmRetParam b => a.SameButAmount b
  | .ncasmSetParam a, .ncasmSetParam b => a.SameButAmount b
  | .ncasmNtfyParam a, .ncasmNtfyParam b => a.SameButAmount b
  | a, b => a = b

theorem ncasmAsWritten_eq_iff (packet : Packet) :
    packet.ncasmAsWritten = packet ↔ ¬ packet.LosesAmount := by
  cases packet with
  | ncasmRetParam data =>
    exact (ncasmRetParam.injEq _ _).to_iff.trans data.asWritten_eq_iff
  | ncasmSetParam data =>
    exact (ncasmSetParam.injEq _ _).to_iff.trans data.asWritten_eq_iff
  | ncasmNtfyParam data =>
    exact (ncasmNtfyParam.injEq _ _).to_iff.trans data.asWritten_eq_iff
  | _ => exact ⟨fun _ => id, fun _ => rfl⟩

theorem ncasm_accepts {packet : Packet} (isNcasm : packet.type.IsNcasm) : ∃ size bytes,
    packet.layouts = some [⟨size, bytes⟩] ∧
      (parse packet.type).Accepts bytes packet.ncasmAsWritten := by
  cases packet with
  | ncasmGetParam data => exact ⟨_, _, rfl, accepts_member _ (parseNcasmGetParam_accepts data)⟩
  | ncasmRetParam data | ncasmSetParam data | ncasmNtfyParam data =>
    obtain ⟨size, bytes, written, accepts⟩ := parseNcasmRetParam_accepts data
    exact ⟨size, bytes, written, accepts_member _ accepts⟩
  | _ => exact False.elim isNcasm

theorem ncasmAsWritten_type (packet : Packet) : packet.ncasmAsWritten.type = packet.type := by
  cases packet <;> rfl

theorem ncasmAsWritten_layouts (packet : Packet) :
    packet.ncasmAsWritten.layouts = packet.layouts := by
  cases packet with
  | ncasmRetParam data | ncasmSetParam data | ncasmNtfyParam data => cases data <;> rfl
  | _ => rfl

theorem ncasmAsWritten_inj {a b : Packet} (isNcasm : a.type.IsNcasm) :
    a.ncasmAsWritten = b.ncasmAsWritten ↔ a.SameButAmount b := by
  cases a with
  | ncasmGetParam a => cases b <;> simp [ncasmAsWritten, SameButAmount]
  | ncasmRetParam a =>
    cases b <;> simp [ncasmAsWritten, SameButAmount, NcasmRetParam.asWritten_inj]
  | ncasmSetParam a =>
    cases b <;> simp [ncasmAsWritten, SameButAmount, NcasmRetParam.asWritten_inj]
  | ncasmNtfyParam a =>
    cases b <;> simp [ncasmAsWritten, SameButAmount, NcasmRetParam.asWritten_inj]
  | _ => exact False.elim isNcasm

/-- A frame of an NCASM packet is decoded to the packet as it was written. -/
theorem ncasm_decodes {packet : Packet} (isNcasm : packet.type.IsNcasm) {heap : Heap} {h h' : Host}
    {frame : Frame} (runs : packet.toFrame heap h = some (some frame, h')) {other : Frame}
    (isData : other.dataType = frameDataTypeDataMdr) (same : other.payload = frame.payload)
    {heap' : Heap} (never : heap'.NeverFails) (h₁ : Host) :
    ∃ h₂, fromFrame heap' other h₁ = some (some packet.ncasmAsWritten, h₂) := by
  obtain ⟨size, bytes, layouts, accepts⟩ := ncasm_accepts isNcasm
  obtain ⟨-, -, isPayload⟩ := payload_of_toFrame (Option.isSome_of_eq_some layouts)
    (not_isBatteryLevel_of_isNcasm isNcasm) runs
  rw [written, layouts] at isPayload
  refine fromFrame_of_accepts accepts isData ?_ never h₁
  rw [same, ← Option.some.inj isPayload]
  exact List.prefix_refl _

/-- **Which NCASM packets come back**: those that do not lose an amount. And packets have
one payload only where they are the same but for such an amount. -/
theorem ncasm_roundTrips_iff {packet : Packet} (isNcasm : packet.type.IsNcasm) :
    (packet.WellFormed → (packet.RoundTrips ↔ ¬ packet.LosesAmount)) ∧
    (∀ other : Packet, other.type.IsNcasm →
      ∀ (heap heap' : Heap) (h h' h₁ h₂ : Host) (frame frame' : Frame),
        packet.toFrame heap h = some (some frame, h') →
        other.toFrame heap' h₁ = some (some frame', h₂) →
        (frame.payload = frame'.payload ↔ packet.SameButAmount other)) := by
  have never : Heap.NeverFails fun _ => some [] := fun _ => rfl
  constructor
  · intro _
    have notBattery := not_isBatteryLevel_of_isNcasm isNcasm
    rw [← ncasmAsWritten_eq_iff]
    obtain ⟨size, bytes, layouts, accepts⟩ := ncasm_accepts isNcasm
    constructor
    · intro roundTrips
      have isWritten : packet.written
          = some (ByteEnum.byte packet.ncasmAsWritten.type :: bytes) := by
        rw [written, layouts, ncasmAsWritten_type]
        rfl
      rw [← ncasmAsWritten_type] at accepts
      exact (roundTrips.eq_of_accepts (Option.isSome_of_eq_some layouts) notBattery isWritten
        accepts).symm
    · intro same
      rw [same] at accepts
      exact Agrees.roundTrips ⟨size, bytes, layouts, accepts⟩ notBattery
  · intro other isNcasm' heap heap' h h' h₁ h₂ frame frame' runs runs'
    rw [← ncasmAsWritten_inj isNcasm]
    obtain ⟨size, bytes, layouts, -⟩ := ncasm_accepts isNcasm
    obtain ⟨size', bytes', layouts', -⟩ := ncasm_accepts isNcasm'
    obtain ⟨isData, -, isPayload⟩ := payload_of_toFrame (Option.isSome_of_eq_some layouts)
      (not_isBatteryLevel_of_isNcasm isNcasm) runs
    obtain ⟨-, -, isPayload'⟩ := payload_of_toFrame (Option.isSome_of_eq_some layouts')
      (not_isBatteryLevel_of_isNcasm isNcasm') runs'
    constructor
    · intro same
      obtain ⟨h₃, asFirst⟩ := ncasm_decodes isNcasm runs isData rfl never h
      obtain ⟨h₄, asSecond⟩ := ncasm_decodes isNcasm' runs' isData same never h
      rw [asFirst] at asSecond
      exact Option.some.inj (Prod.mk.inj (Option.some.inj asSecond)).1
    · intro same
      have written : packet.written = other.written := by
        rw [Packet.written, Packet.written, ← ncasmAsWritten_layouts packet,
          ← ncasmAsWritten_type packet, same, ncasmAsWritten_layouts, ncasmAsWritten_type]
      exact Option.some.inj (isPayload.symm.trans (written.trans isPayload'))

/-- Ambient sound at level 10, as it is set: the amount does not come back, and the payload
is that of level 20. -/
theorem not_roundTrips_ambient_sound :
    WellFormed (.ncasmSetParam (.ambientSoundMode ⟨.on, .levelAdjustment, .normal, 10⟩)) ∧
    ¬ RoundTrips (.ncasmSetParam (.ambientSoundMode ⟨.on, .levelAdjustment, .normal, 10⟩)) ∧
    toFrame (fun _ => some []) (.ncasmSetParam (.ambientSoundMode
        ⟨.on, .levelAdjustment, .normal, 10⟩)) ⟨0, [], [], 0, [], []⟩
      = toFrame (fun _ => some []) (.ncasmSetParam (.ambientSoundMode
        ⟨.on, .levelAdjustment, .normal, 20⟩)) ⟨0, [], [], 0, [], []⟩ := by
  refine ⟨⟨trivial, trivial⟩, ?_, rfl⟩
  intro roundTrips
  obtain ⟨frame, h', runs, decodes⟩ := roundTrips (fun _ => some []) ⟨0, [], [], 0, [], []⟩
    fun _ => rfl
  obtain ⟨isFrame, -⟩ := Prod.mk.inj (Option.some.inj runs)
  obtain rfl := Option.some.inj isFrame
  obtain ⟨h₂, decoded⟩ := decodes (fun _ => some []) ⟨0, [], [], 0, [], []⟩ fun _ => rfl
  have amount : fromFrame (fun _ => some []) ⟨0x0c, 0, 6, [0x68, 0x03, 0x01, 0x01, 0x00, 0x00, 0]⟩
      ⟨0, [], [], 0, [], []⟩ = some (some (.ncasmSetParam (.ambientSoundMode
        ⟨.on, .levelAdjustment, .normal, 0⟩)), ⟨0, [], [], 1, [], []⟩) := by decide +kernel
  cases amount.symm.trans decoded

/-- `ncasm_roundTrips_iff` on noise cancelling with ambient sound at level 10, and against
the same at level 20. -/
theorem ncasm_roundTrips_iff_ambient_sound :
    (RoundTrips (.ncasmSetParam (.noiseCancellingAsm
        ⟨.on, .dualSingleOff, 0, .levelAdjustment, .voice, 10⟩)) ↔
      ¬ LosesAmount (.ncasmSetParam (.noiseCancellingAsm
        ⟨.on, .dualSingleOff, 0, .levelAdjustment, .voice, 10⟩))) ∧
    (Frame.payload ⟨0x0c, 0, 8, [0x68, 0x02, 0x01, 0x02, 0, 0x01, 0x01, 10, 0]⟩
      = Frame.payload ⟨0x0c, 0, 8, [0x68, 0x02, 0x01, 0x02, 0, 0x01, 0x01, 20, 0]⟩ ↔
      SameButAmount
        (.ncasmSetParam (.noiseCancellingAsm ⟨.on, .dualSingleOff, 0, .levelAdjustment, .voice, 10⟩))
        (.ncasmSetParam (.noiseCancellingAsm
          ⟨.on, .dualSingleOff, 0, .levelAdjustment, .voice, 20⟩))) :=
  have isNcasm : (type (.ncasmSetParam (.noiseCancellingAsm
      ⟨.on, .dualSingleOff, 0, .levelAdjustment, .voice, 10⟩))).IsNcasm := trivial
  ⟨(ncasm_roundTrips_iff isNcasm).1 ⟨trivial, trivial⟩,
    (ncasm_roundTrips_iff isNcasm).2
      (.ncasmSetParam (.noiseCancellingAsm ⟨.on, .dualSingleOff, 0, .levelAdjustment, .voice, 20⟩))
      trivial (fun _ => some []) (fun _ => some []) ⟨0, [], [], 0, [], []⟩ _
      ⟨0, [], [], 0, [], []⟩ _ _ _ rfl rfl⟩

end Packet

end Libmdr
