import Libmdr.Packet.Roundtrip

/-!
# EQEBB packets there and back

The encoder and the decoder of EQEBB list their fields apart from each other, and the
encoder computes the size of a capability in a loop of its own. They agree: what is
encoded is decoded to the same packet, and what is decoded is encoded to the bytes that
were read.
-/

namespace Libmdr
set_option autoImplicit false

open Parse

/-! ## What the encoder writes, the decoder accepts -/

theorem parseEqebbGetCapability_accepts (packet : EqebbGetCapability) :
    Accepts parseEqebbGetCapability
      [ByteEnum.byte packet.inquiredType, ByteEnum.byte packet.displayLanguage] packet :=
  .bind (.enum packet.inquiredType) (.bind (.enum packet.displayLanguage) (.pure _))

/-- A preset on the wire: its id, the length of its name and the name. -/
def EqebbCapabilityEqPresetName.encoded (preset : EqebbCapabilityEqPresetName) : List UInt8 :=
  ByteEnum.byte preset.presetId :: preset.nameLen :: preset.name

theorem parseEqebbCapabilityEqPresetName_accepts {preset : EqebbCapabilityEqPresetName}
    (counts : preset.CountsMatch) :
    Accepts parseEqebbCapabilityEqPresetName preset.encoded preset :=
  .bind (.enum preset.presetId) (.bind (.byte preset.nameLen) (.map _ (.bytes counts)))

theorem parseEqebbCapabilityEq_accepts {eq : EqebbCapabilityEq} (counts : eq.CountsMatch) :
    Accepts parseEqebbCapabilityEq
      (eq.bandCount :: eq.levelSteps :: eq.numPresets ::
        eq.presets.flatMap EqebbCapabilityEqPresetName.encoded) eq := by
  have presets := Accepts.forEach counts.1 fun preset isIn =>
    parseEqebbCapabilityEqPresetName_accepts (counts.2 preset isIn)
  exact .bind (.byte eq.bandCount) (.bind (.byte eq.levelSteps) (.bind (.byte eq.numPresets)
    (.map _ presets)))

theorem writeEqebbCapabilityEq_eq (inquiredType : UInt8) {eq : EqebbCapabilityEq}
    (counts : eq.CountsMatch) : ∃ size, writeEqebbCapabilityEq inquiredType eq
      = some [⟨size, inquiredType :: eq.bandCount :: eq.levelSteps :: eq.numPresets ::
          eq.presets.flatMap EqebbCapabilityEqPresetName.encoded⟩] := by
  have written : eq.presets.mapM writeEqebbCapabilityEqPresetName
      = some (eq.presets.map EqebbCapabilityEqPresetName.encoded) := by
    apply Pieces.mapM_of_forall
    intro preset isIn
    rw [writeEqebbCapabilityEqPresetName, counted_of_length (counts.2 preset isIn)]
    rfl
  rw [writeEqebbCapabilityEq, counted_of_length counts.1]
  simp only [Option.bind_eq_bind, Option.bind_some, written, List.flatMap_def]
  exact ⟨_, rfl⟩

theorem parseEqebbCapabilityEbb_accepts (ebb : EqebbCapabilityEbb) :
    Accepts parseEqebbCapabilityEbb [ebb.minLevel, ebb.maxLevel] ebb :=
  .bind (.byte ebb.minLevel) (.bind (.byte ebb.maxLevel) (.pure _))

theorem parseEqebbRetCapability_accepts {packet : EqebbRetCapability}
    (counts : packet.CountsMatch) : ∃ size bytes,
      writeEqebbRetCapability packet = some [⟨size, bytes⟩] ∧
        Accepts parseEqebbRetCapability bytes packet := by
  cases packet with
  | presetEq eq =>
    obtain ⟨size, written⟩ :=
      writeEqebbCapabilityEq_eq (ByteEnum.byte EqebbInquiredType.presetEq) counts
    exact ⟨size, _, written, .bind (.enum EqebbInquiredType.presetEq)
      (.map _ (parseEqebbCapabilityEq_accepts counts))⟩
  | presetEqNoncustomizable eq =>
    obtain ⟨size, written⟩ :=
      writeEqebbCapabilityEq_eq (ByteEnum.byte EqebbInquiredType.presetEqNoncustomizable) counts
    exact ⟨size, _, written, .bind (.enum EqebbInquiredType.presetEqNoncustomizable)
      (.map _ (parseEqebbCapabilityEq_accepts counts))⟩
  | ebb ebb =>
    exact ⟨_, _, rfl, .bind (.enum EqebbInquiredType.ebb)
      (.map _ (parseEqebbCapabilityEbb_accepts ebb))⟩

theorem parseEqebbGetParam_accepts (packet : EqebbGetParam) :
    Accepts parseEqebbGetParam [ByteEnum.byte packet.inquiredType] packet :=
  .bind (.enum packet.inquiredType) (.pure _)

theorem parseEqebbParamEq_accepts {eq : EqebbParamEq} (counts : eq.CountsMatch) :
    Accepts parseEqebbParamEq (ByteEnum.byte eq.presetId :: eq.numLevels :: eq.levels) eq := by
  exact .bind (.enum eq.presetId) (.bind (.byte eq.numLevels) (.map _ (.bytes counts)))

theorem parseEqebbRetParam_accepts {packet : EqebbRetParam} (counts : packet.CountsMatch) :
    ∃ size bytes, writeEqebbRetParam packet = some [⟨size, bytes⟩] ∧
      Accepts parseEqebbRetParam bytes packet := by
  cases packet with
  | presetEq eq =>
    have accepts : Accepts parseEqebbRetParam _ (.presetEq eq) :=
      .bind (.enum EqebbInquiredType.presetEq)
        (.map _ (parseEqebbParamEq_accepts counts))
    exact ⟨_, _, counted_eq_some counts, accepts⟩
  | presetEqNoncustomizable eq =>
    have accepts : Accepts parseEqebbRetParam _ (.presetEqNoncustomizable eq) :=
      .bind (.enum EqebbInquiredType.presetEqNoncustomizable)
        (.map _ (parseEqebbParamEq_accepts counts))
    exact ⟨_, _, counted_eq_some counts, accepts⟩
  | ebb ebb =>
    exact ⟨_, _, rfl, .bind (.enum EqebbInquiredType.ebb) (.bind (.byte ebb.level) (.pure _))⟩

/-! ## Frames -/

/-- The types of the EQEBB family. -/
def PacketType.IsEqebb : PacketType → Prop
  | .eqebbGetCapability | .eqebbRetCapability | .eqebbGetParam | .eqebbRetParam | .eqebbSetParam
  | .eqebbNtfyParam => True
  | _ => False

namespace Packet

/-- The bytes that an EQEBB packet is encoded to are accepted as that packet. -/
theorem eqebb_agrees {packet : Packet} (isEqebb : packet.type.IsEqebb)
    (counts : packet.CountsMatch) : packet.Agrees := by
  cases packet with
  | eqebbGetCapability data =>
    exact ⟨_, _, rfl, accepts_member _ (parseEqebbGetCapability_accepts data)⟩
  | eqebbRetCapability data =>
    obtain ⟨size, bytes, written, accepts⟩ := parseEqebbRetCapability_accepts counts
    exact ⟨size, bytes, written, accepts_member _ accepts⟩
  | eqebbGetParam data => exact ⟨_, _, rfl, accepts_member _ (parseEqebbGetParam_accepts data)⟩
  | eqebbRetParam data | eqebbSetParam data | eqebbNtfyParam data =>
    obtain ⟨size, bytes, written, accepts⟩ := parseEqebbRetParam_accepts counts
    exact ⟨size, bytes, written, accepts_member _ accepts⟩
  | _ => exact False.elim isEqebb

theorem not_isBatteryLevel_of_isEqebb {packet : Packet} (isEqebb : packet.type.IsEqebb) :
    ¬ packet.IsBatteryLevel :=
  not_isBatteryLevel_of isEqebb id id

/-- What is read as an EQEBB packet is what the encoder writes for it. -/
theorem parse_rewrites (type : PacketType) :
    Reads (parse type) (2 ^ 26) fun taken packet => packet.type = type ∧
      (type.IsEqebb → packet.CountsMatch ∧ packet.layouts = some [⟨taken.length, taken⟩]) := by
  refine .bind (Nat.zero_le _) .alloc ?_
  rintro _ _ rfl
  cases type with
  | eqebbGetCapability =>
    exact .map (by decide) parseEqebbGetCapability_reads
      fun _ _ written => ⟨rfl, fun _ => ⟨trivial, written⟩⟩
  | eqebbRetCapability =>
    exact .map (by decide) parseEqebbRetCapability_reads fun _ _ holds => ⟨rfl, fun _ => holds⟩
  | eqebbGetParam =>
    exact .map (by decide) parseEqebbGetParam_reads
      fun _ _ written => ⟨rfl, fun _ => ⟨trivial, written⟩⟩
  | eqebbRetParam | eqebbSetParam | eqebbNtfyParam =>
    exact .map (by decide) parseEqebbRetParam_reads fun _ _ holds => ⟨rfl, fun _ => holds⟩
  | _ =>
    refine (parseData_reads _).weaken (by decide) ?_
    intro taken packet decodes
    exact ⟨decodes.isType, False.elim⟩

/-- The EQEBB codec, both ways: a packet that is well formed is encoded to a frame that is
decoded to it, and a frame that is decoded to an EQEBB packet starts with the payload that
this packet is encoded to. -/
theorem eqebb_roundtrip :
    (∀ packet : Packet, packet.type.IsEqebb → packet.WellFormed →
      ∀ (heap : Heap) (h : Host), heap.NeverFails →
        ∃ frame h', packet.toFrame heap h = some (some frame, h') ∧
          ∀ (heap' : Heap) (h₁ : Host), heap'.NeverFails →
            ∃ h₂, fromFrame heap' frame h₁ = some (some packet, h₂)) ∧
    (∀ (frame : Frame) (heap : Heap) (h h' : Host) (packet : Packet),
      frame.payloadLength.toNat ≤ frame.body.length →
      fromFrame heap frame h = some (some packet, h') → packet.type.IsEqebb →
      ∀ (heap' : Heap) (h₁ : Host), heap'.NeverFails →
        ∃ again h₂, packet.toFrame heap' h₁ = some (some again, h₂) ∧
          again.payload <+: frame.payload) := by
  constructor
  · intro packet isEqebb wellFormed
    exact (eqebb_agrees isEqebb wellFormed.counts).roundTrips
      (not_isBatteryLevel_of_isEqebb isEqebb)
  · intro frame heap h h' packet holds accepted isEqebb heap' h₁ never
    obtain ⟨type, rest, isPayload, parsed⟩ := fromFrame_parsed holds accepted
    obtain ⟨taken, front, rfl, rewrites⟩ := parsed _ (parse_rewrites type)
    obtain ⟨counts, layouts⟩ := rewrites isEqebb
    obtain ⟨again, h₂, runs, -, isAgain⟩ :=
      toFrame_payload (not_isBatteryLevel_of_isEqebb isEqebb) layouts never h₁
    refine ⟨again, h₂, runs, ?_⟩
    rw [isAgain, isPayload]
    exact List.cons_prefix_cons.mpr ⟨rfl, front⟩

/-- `eqebb_roundtrip` on an equalizer with two presets, one of them without a name, and on
a frame with a byte more than it needs. -/
theorem eqebb_roundtrip_presets :
    (∃ frame h', toFrame (fun _ => some []) (.eqebbRetCapability (.presetEq
        ⟨5, 21, 2, [⟨.off, 3, [0x4f, 0x66, 0x66]⟩, ⟨.custom, 0, []⟩]⟩)) ⟨0, [], [], 0, [], []⟩
        = some (some frame, h') ∧
      ∀ (heap' : Heap) (h₁ : Host), heap'.NeverFails →
        ∃ h₂, fromFrame heap' frame h₁ = some (some (.eqebbRetCapability (.presetEq
          ⟨5, 21, 2, [⟨.off, 3, [0x4f, 0x66, 0x66]⟩, ⟨.custom, 0, []⟩]⟩)), h₂)) ∧
    ∃ again h₂, toFrame (fun _ => some []) (.eqebbRetParam (.ebb ⟨7⟩)) ⟨0, [], [], 0, [], []⟩
        = some (some again, h₂) ∧
      again.payload <+: Frame.payload ⟨0x0c, 0, 4, [0x57, 0x02, 7, 9, 0]⟩ := by
  have never : Heap.NeverFails fun _ => some [] := fun _ => rfl
  have counts : EqebbCapabilityEq.CountsMatch
      ⟨5, 21, 2, [⟨.off, 3, [0x4f, 0x66, 0x66]⟩, ⟨.custom, 0, []⟩]⟩ := by
    refine ⟨rfl, ?_⟩
    intro preset isIn
    simp only [List.mem_cons, List.not_mem_nil, or_false] at isIn
    rcases isIn with rfl | rfl
    · rfl
    · rfl
  constructor
  · exact eqebb_roundtrip.1 (.eqebbRetCapability (.presetEq
      ⟨5, 21, 2, [⟨.off, 3, [0x4f, 0x66, 0x66]⟩, ⟨.custom, 0, []⟩]⟩)) trivial ⟨counts, trivial⟩
      _ _ never
  · exact eqebb_roundtrip.2 ⟨0x0c, 0, 4, [0x57, 0x02, 7, 9, 0]⟩ (fun _ => some [])
      ⟨0, [], [], 0, [], []⟩ ⟨0, [], [], 1, [], []⟩ _ (by decide) rfl trivial _ _ never

end Packet

end Libmdr
