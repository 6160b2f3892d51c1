import Libmdr.Packet.Decoding
import Libmdr.Packet.Ownership
import Mathlib.Data.Finset.Lattice.Lemmas

/-!
# From the first allocation to the last free

A packet is parsed, used, and freed. Whatever the frame is and whichever allocations fail, no
block is freed twice; a parser that fails has freed all its blocks; and `mdr_packet_free` frees
those of a packet that was parsed. Only a device info string costs a block for good.
-/

namespace Libmdr
set_option autoImplicit false

/-! ## The parts that allocate nothing -/

section Steady

open Parse.Steady

theorem parseDeviceInfoSeriesAndColor_steady : parseDeviceInfoSeriesAndColor.Steady :=
  bind enum fun _ => bind enum fun _ => pure _

theorem parseEqebbCapabilityEbb_steady : parseEqebbCapabilityEbb.Steady :=
  bind byte fun _ => bind byte fun _ => pure _

theorem parseSystemAssignableSettingsCapabilityAction_steady :
    parseSystemAssignableSettingsCapabilityAction.Steady :=
  bind enum fun _ => bind enum fun _ => pure _

theorem parseSystemCapabilitySmartTalkingMode_steady :
    parseSystemCapabilitySmartTalkingMode.Steady :=
  bind enum fun _ => bind enum fun _ => bind enum fun _ => bind enum fun _ => bind enum fun _ =>
    bind enum fun _ => bind byte fun _ => bind byte fun _ => bind byte fun _ => bind byte fun _ =>
      pure _

theorem parseSystemParamAutoPowerOff_steady : parseSystemParamAutoPowerOff.Steady :=
  bind enum fun _ => bind enum fun _ => bind enum fun _ => pure _

theorem parseCommonRetBatteryLevel_steady : parseCommonRetBatteryLevel.Steady := by
  have status : parseBatteryStatus.Steady := bind byte fun _ => bind byte fun _ => pure _
  refine bind enum fun inquiredType => ?_
  cases inquiredType with
  | battery | cradleBattery => exact bind status fun _ => pure _
  | leftRightBattery => exact bind status fun _ => bind status fun _ => pure _

theorem parseCommonRetConnectionStatus_steady : parseCommonRetConnectionStatus.Steady := by
  refine bind enum fun inquiredType => ?_
  cases inquiredType
  exact bind enum fun _ => bind enum fun _ => pure _

theorem parseNcasmRetParam_steady : parseNcasmRetParam.Steady := by
  refine bind enum fun inquiredType => ?_
  cases inquiredType with
  | noiseCancelling =>
    exact bind (bind enum fun _ => bind enum fun _ => pure _) fun _ => pure _
  | noiseCancellingAndAsm =>
    refine bind ?_ fun _ => pure _
    exact bind enum fun _ => bind enum fun _ => bind byte fun _ => bind enum fun _ =>
      bind enum fun _ => bind byte fun _ => pure _
  | asm =>
    refine bind ?_ fun _ => pure _
    exact bind enum fun _ => bind enum fun _ => bind enum fun _ => bind byte fun _ => pure _

/-- The types whose packets have pointers. -/
def PacketType.HasPointers : PacketType → Bool
  | .connectRetDeviceInfo | .connectRetSupportFunction | .eqebbRetCapability | .eqebbRetParam
  | .eqebbSetParam | .eqebbNtfyParam | .playRetParam | .playSetParam | .playNtfyParam
  | .systemRetCapability | .systemRetParam | .systemSetParam | .systemNtfyParam => true
  | _ => false

theorem Packet.parseData_steady {type : PacketType} (plain : type.HasPointers = false) :
    (parseData type).Steady := by
  have one {α β : Type} [ByteEnum α] (f : α → β) : Parse.Steady (Parse.enum >>= fun a => Pure.pure (f a)) :=
    bind enum fun _ => pure _
  have two {α β γ : Type} [ByteEnum α] [ByteEnum β] (f : α → β → γ) :
      Parse.Steady (Parse.enum >>= fun a => Parse.enum >>= fun b => Pure.pure (f a b)) :=
    bind enum fun _ => one _
  have fixed {α : Type} (f : UInt8 → α) : Parse.Steady (Parse.fixedValue >>= fun a => Pure.pure (f a)) :=
    bind fixedValue fun _ => pure _
  cases type with
  | connectGetProtocolInfo | connectGetSupportFunction => exact bind (fixed _) fun _ => pure _
  | connectRetProtocolInfo =>
    exact bind (bind fixedValue fun _ => bind byte fun _ => bind byte fun _ => pure _) fun _ => pure _
  | connectGetDeviceInfo | commonGetBatteryLevel | commonGetConnectionStatus | eqebbGetParam
  | ncasmGetParam | systemGetCapability | systemGetParam => exact bind (one _) fun _ => pure _
  | commonSetPowerOff | eqebbGetCapability | playGetParam => exact bind (two _) fun _ => pure _
  | commonRetBatteryLevel | commonNtfyBatteryLevel =>
    exact bind parseCommonRetBatteryLevel_steady fun _ => pure _
  | commonRetConnectionStatus | commonNtfyConnectionStatus =>
    exact bind parseCommonRetConnectionStatus_steady fun _ => pure _
  | ncasmRetParam | ncasmSetParam | ncasmNtfyParam =>
    exact bind parseNcasmRetParam_steady fun _ => pure _
  | connectRetDeviceInfo | connectRetSupportFunction | eqebbRetCapability | eqebbRetParam
  | eqebbSetParam | eqebbNtfyParam | playRetParam | playSetParam | playNtfyParam
  | systemRetCapability | systemRetParam | systemSetParam | systemNtfyParam => cases plain

end Steady

/-! ## The parsers with pointers -/

/-- A packet behind `PARSE_INIT`, or with its selector stored: no pointer is set. -/
structure Building.Bare (base : Finset Nat) (b : Building) : Prop where
  owns : b.Owns base 0
  null : ∀ place, b.packet.blocks.pointer place = none

/-- The packet that was built can be freed. -/
def Building.Freeable {α : Type} (base : Finset Nat) (_ : α) (b : Building) : Prop :=
  b.packet.free b.live = some base

@[simp] theorem PacketMemory.setPointer_again (packet : PacketMemory) (place : List Nat)
    (first second : Option Nat) :
    (packet.setPointer place first).setPointer place second = packet.setPointer place second := by
  simp [setPointer, Blocks.Tree.setPointer]

namespace Building

variable {α β : Type} {base : Finset Nat} {depth : Nat} {heap : Heap} {frame : Frame}
  {b : Building}

/-- Before there are pointers, they may be planned to any depth. -/
theorem Bare.deep (bare : b.Bare base) (depth : Nat) : b.Owns base depth :=
  bare.owns.bare bare.null b.packet.selector depth

/-- A packet behind `PARSE_INIT`. -/
theorem Bare.new {type : PacketType} {address : Nat} {cursor : Cursor}
    (older : ∀ a ∈ base, a < address) (more : cursor.mallocs = address + 1) :
    ({ cursor, packet := .new type address, live := insert address base } : Building).Bare base where
  owns :=
    { placed := ⟨nofun, nofun, nofun, nofun⟩
      live := fun a => by
        rw [Finset.mem_insert]
        exact ⟨fun isLive => isLive.elim (fun new => .inr (.inl new)) .inl,
          fun isLive => isLive.elim .inr fun new => new.elim .inl nofun⟩
      fresh := fun a isLive => by
        change a < cursor.mallocs
        rcases Finset.mem_insert.mp isLive with rfl | isBase
        · omega
        · have early := older a isBase
          omega
      apart := fun a isBase => ⟨Nat.ne_of_lt (older a isBase), nofun⟩
      frees := .inl fun _ => rfl }
  null _ := rfl

/-- A new block that the packet does not point to is one of those of before. -/
theorem Bare.forget (bare : b.Bare base) {cursor : Cursor}
    (more : cursor.mallocs = b.cursor.mallocs + 1) :
    ({ b with cursor, live := insert b.cursor.mallocs b.live } : Building).Bare
      (insert b.cursor.mallocs base) where
  owns := by
    obtain ⟨placed, live, fresh, apart, -⟩ := bare.owns
    have new (a : Nat) (isLive : a ∈ b.live) : a ≠ b.cursor.mallocs := Nat.ne_of_lt (fresh a isLive)
    refine ⟨placed, fun a => ?_, fun a isLive => ?_, fun a isBase => ?_, .inl bare.null⟩
    · rw [Finset.mem_insert, Finset.mem_insert, live, or_assoc]
    · change a < cursor.mallocs
      rcases Finset.mem_insert.mp isLive with rfl | isLive
      · omega
      · have early := fresh a isLive
        omega
    · rcases Finset.mem_insert.mp isBase with rfl | isBase
      · refine ⟨(new _ ((live _).mpr (.inr (.inl rfl)))).symm, fun place => ?_⟩
        change b.packet.blocks.pointer place ≠ _
        rw [bare.null]
        exact nofun
      · exact apart a isBase
  null := bare.null

theorem Bare.ready (bare : b.Bare base)
    (frees : PacketMemory.FreesTo b.packet.type b.packet.selector depth) : b.Ready depth [] where
  short := Nat.zero_le depth
  isOpen same := by simp at same
  null := bare.null []
  frees := frees

namespace Ends

theorem map {m : Build α} {P : Building → Prop} (f : α → β)
    (ends : Ends base (fun _ b' => P b') (m heap frame b)) :
    Ends base (fun _ b' => P b') ((m >>= fun a => Pure.pure (f a)) heap frame b) :=
  bind ends fun _ _ holds => pure holds

/-- A part that allocates nothing, in front of the first pointer. -/
theorem bare_plain {part : Parse α} (steady : part.Steady) (bare : b.Bare base) :
    Ends base (fun _ b' => b'.Bare base ∧ b'.packet = b.packet)
      (Build.plain part heap frame b) :=
  imp (plain steady bare.owns) fun _ b' ⟨owns, same⟩ =>
    ⟨⟨owns, by rw [same]; exact bare.null⟩, same⟩

theorem bare_selector [ByteEnum α] (bare : b.Bare base) :
    Ends base (fun (a : α) b' => b'.Bare base ∧
        b'.packet = { b.packet with selector := ByteEnum.byte a })
      ((Build.selector : Build α) heap frame b) :=
  imp (selector bare.owns bare.null) fun _ b' ⟨owns, same⟩ =>
    ⟨⟨owns 0, by rw [same]; exact bare.null⟩, same⟩

/-- A packet, or the rest of one, without pointers. -/
theorem plain_freeable {part : Parse α} (steady : part.Steady) (bare : b.Bare base) :
    Ends base (Freeable base) (Build.plain part heap frame b) :=
  imp (plain steady bare.owns) fun _ _ ⟨owns, _⟩ => owns.free

/-- An array of elements without pointers. -/
theorem array {part : Parse α} {f : UInt8 → List α → β} (steady : part.Steady)
    (bare : b.Bare base) (frees : PacketMemory.FreesTo b.packet.type b.packet.selector 0) :
    Ends base (Freeable base) ((Build.plain Parse.byte >>= fun n =>
      Build.forEach [] n (fun _ => Build.plain part) >>= fun values => Pure.pure (f n values))
        heap frame b) := by
  refine bind (bare_plain .byte bare) fun n b₁ ⟨bare, same⟩ => ?_
  rw [← same] at frees
  exact bind (forEach_plain steady bare.owns (bare.ready frees)) fun _ _ ⟨owns, _⟩ => pure owns.free

/-- Bytes behind two other fields. -/
theorem bytes_last {γ : Type} {first : Parse α} {second : Parse β} {length : β → UInt8}
    {f : α → β → List UInt8 → γ} (steady : first.Steady) (steady' : second.Steady)
    (bare : b.Bare base) (frees : PacketMemory.FreesTo b.packet.type b.packet.selector 0) :
    Ends base (Freeable base) ((Build.plain first >>= fun x => Build.plain second >>= fun y =>
      Build.bytes [] (length y) >>= fun value => Pure.pure (f x y value)) heap frame b) := by
  refine bind (bare_plain steady bare) fun x b₁ ⟨bare, same⟩ => ?_
  rw [← same] at frees
  refine bind (bare_plain steady' bare) fun y b₂ ⟨bare, same'⟩ => ?_
  rw [← same'] at frees
  exact bind (bytes bare.owns (bare.ready frees)) fun _ _ ⟨owns, _⟩ => pure owns.free

/-- An array with its number of elements, each with blocks of its own. -/
theorem counted {place : List Nat} {element : Nat → Build α} {f : UInt8 → List α → β}
    (each : ∀ i b, b.Owns base depth → b.Ready depth (place ++ [i]) →
      Ends base (fun _ b' => Filled base depth (place ++ [i]) b b') (element i heap frame b))
    (owns : b.Owns base depth) (ready : b.Ready depth place) (deep : place.length < depth) :
    Ends base (fun _ b' => Filled base depth place b b') ((Build.count place >>= fun n =>
      Build.forEach place n element >>= fun values => Pure.pure (f n values)) heap frame b) := by
  refine bind (count owns ready.null) fun n b₁ ⟨owns, same⟩ => ?_
  have ready₁ : b₁.Ready depth place := by
    refine ⟨ready.short, ?_, ?_, ?_⟩
    · intro above i isPlace
      obtain ⟨parent, few⟩ := ready.isOpen isPlace
      have other : above ≠ place := by
        rintro rfl
        have longer := congrArg List.length isPlace
        rw [List.length_append, List.length_singleton] at longer
        omega
      rw [same]
      refine ⟨parent, ?_⟩
      change i < (b.packet.blocks.setCount place _).count above
      rwa [Blocks.Tree.setCount_other other]
    · rw [same]
      exact ready.null
    · rw [same]
      exact ready.frees
  have under : Under place b b₁ := by
    constructor
    · rw [same]
    · rw [same]
    · intro other _
      rw [same]
      rfl
    · intro other apart
      rw [same]
      exact Blocks.Tree.setCount_other (by rintro rfl; exact apart (List.prefix_refl _)) ..
  refine bind (forEach (fun i b _ => each i b) owns ready₁ deep ?_)
    fun _ b₂ ⟨owns, under'⟩ => pure ⟨owns, under.trans under'⟩
  rw [same]
  exact Blocks.Tree.setCount_same ..

/-! ### Families -/

theorem connectRetSupportFunction (bare : b.Bare base)
    (isType : b.packet.type = .connectRetSupportFunction) :
    Ends base (Freeable base) (buildConnectRetSupportFunction heap frame b) := by
  refine bind (bare_plain .fixedValue bare) fun _ b₁ ⟨bare, same⟩ => ?_
  refine array .enum bare ?_
  rw [same, isType]
  exact fun _ _ => rfl

theorem eqebbCapabilityEq (bare : b.Bare base)
    (frees : PacketMemory.FreesTo b.packet.type b.packet.selector 1) :
    Ends base (Freeable base) (buildEqebbCapabilityEq heap frame b) := by
  refine bind (bare_plain .byte bare) fun _ b₁ ⟨bare, same⟩ => ?_
  rw [← same] at frees
  refine bind (bare_plain .byte bare) fun _ b₂ ⟨bare, same'⟩ => ?_
  rw [← same'] at frees
  have each (i : Nat) (b : Building) (owns : b.Owns base 1) (ready : b.Ready 1 ([] ++ [i])) :
      Ends base (fun _ b' => Filled base 1 ([] ++ [i]) b b')
        (buildEqebbCapabilityEqPresetName i heap frame b) := by
    refine bind (plain .enum owns) fun _ b₁ ⟨owns, same⟩ => ?_
    refine bind (plain .byte owns) fun length b₂ ⟨owns, same'⟩ => ?_
    refine bind (bytes owns (ready.of_packet (same'.trans same))) fun _ b₃ ⟨owns, under⟩ => ?_
    exact pure ⟨owns, (Under.of_packet (same'.trans same)).trans under⟩
  exact imp (counted each (bare.deep 1) (bare.ready frees) Nat.one_pos)
    fun _ _ ⟨owns, _⟩ => owns.free

/-- What is freed is known by the type and the selector. -/
theorem freesTo {b' : Building} {type : PacketType} {selector : UInt8}
    (same : b'.packet = { b.packet with selector }) (isType : b.packet.type = type)
    (frees : PacketMemory.FreesTo type selector depth) :
    PacketMemory.FreesTo b'.packet.type b'.packet.selector depth := by
  rw [same]
  change PacketMemory.FreesTo b.packet.type selector depth
  rwa [isType]

theorem eqebbRetCapability (bare : b.Bare base) (isType : b.packet.type = .eqebbRetCapability) :
    Ends base (Freeable base) (buildEqebbRetCapability heap frame b) := by
  refine bind (bare_selector bare) fun inquiredType b₁ ⟨bare, same⟩ => ?_
  cases inquiredType with
  | presetEq | presetEqNoncustomizable =>
    exact map _ (eqebbCapabilityEq bare (freesTo same isType fun _ _ => rfl))
  | ebb => exact map _ (plain_freeable parseEqebbCapabilityEbb_steady bare)

theorem eqebbRetParam (bare : b.Bare base) {type : PacketType} (isType : b.packet.type = type)
    (frees : ∀ inquiredType : EqebbInquiredType, inquiredType ≠ .ebb →
      PacketMemory.FreesTo type (ByteEnum.byte inquiredType) 0) :
    Ends base (Freeable base) (buildEqebbRetParam heap frame b) := by
  refine bind (bare_selector bare) fun inquiredType b₁ ⟨bare, same⟩ => ?_
  cases inquiredType with
  | presetEq | presetEqNoncustomizable =>
    exact map _ (bytes_last .enum .byte bare (freesTo same isType (frees _ (by decide))))
  | ebb => exact map _ (plain_freeable .byte bare)

theorem playRetParam (bare : b.Bare base) {type : PacketType} (isType : b.packet.type = type)
    (frees : ∀ detailedDataType : PlayPlaybackDetailedDataType, detailedDataType ≠ .volume →
      PacketMemory.FreesTo type (ByteEnum.byte detailedDataType) 0) :
    Ends base (Freeable base) (buildPlayRetParam heap frame b) := by
  refine bind (bare_plain .enum bare) fun _ b₁ ⟨bare, same⟩ => ?_
  rw [← same] at isType
  refine bind (bare_selector bare) fun detailedDataType b₂ ⟨bare, same⟩ => ?_
  have string (other : detailedDataType ≠ .volume) :
      Ends base (Freeable base) (buildPlayPlaybackString heap frame b₂) :=
    bytes_last .enum .byte bare (freesTo same isType (frees _ other))
  cases detailedDataType with
  | volume => exact map _ (plain_freeable .byte bare)
  | _ => exact map _ (string (by decide))

theorem systemCapabilityAssignableSettings (bare : b.Bare base)
    (frees : PacketMemory.FreesTo b.packet.type b.packet.selector 2) :
    Ends base (Freeable base) (buildSystemCapabilityAssignableSettings heap frame b) := by
  have preset (i j : Nat) (b : Building) (owns : b.Owns base 2)
      (ready : b.Ready 2 ([] ++ [i] ++ [j])) :
      Ends base (fun _ b' => Filled base 2 ([] ++ [i] ++ [j]) b b')
        (buildSystemAssignableSettingsCapabilityPreset i j heap frame b) := by
    refine bind (plain .enum owns) fun _ b₁ ⟨owns, same⟩ => ?_
    refine bind (plain .byte owns) fun n b₂ ⟨owns, same'⟩ => ?_
    have same := same'.trans same
    refine bind (forEach_plain parseSystemAssignableSettingsCapabilityAction_steady owns
      (ready.of_packet same)) fun _ b₃ ⟨owns, under⟩ => ?_
    exact pure ⟨owns, (Under.of_packet same).trans under⟩
  have key (i : Nat) (b : Building) (owns : b.Owns base 2) (ready : b.Ready 2 ([] ++ [i])) :
      Ends base (fun _ b' => Filled base 2 ([] ++ [i]) b b')
        (buildSystemAssignableSettingsCapabilityKey i heap frame b) := by
    refine bind (plain .enum owns) fun _ b₁ ⟨owns, same₁⟩ => ?_
    refine bind (plain .enum owns) fun _ b₂ ⟨owns, same₂⟩ => ?_
    refine bind (plain .enum owns) fun _ b₃ ⟨owns, same₃⟩ => ?_
    have same := same₃.trans (same₂.trans same₁)
    exact imp (counted (preset i) owns (ready.of_packet same) (Nat.lt_succ_self 1))
      fun _ b₄ ⟨owns, under⟩ => ⟨owns, (Under.of_packet same).trans under⟩
  exact imp (counted key (bare.deep 2) (bare.ready frees) Nat.two_pos)
    fun _ _ ⟨owns, _⟩ => owns.free

theorem systemRetCapability (bare : b.Bare base) (isType : b.packet.type = .systemRetCapability) :
    Ends base (Freeable base) (buildSystemRetCapability heap frame b) := by
  refine bind (bare_selector bare) fun inquiredType b₁ ⟨bare, same⟩ => ?_
  cases inquiredType with
  | autoPowerOff => exact map _ (array .enum bare (freesTo same isType fun _ _ => rfl))
  | assignableSettings =>
    exact map _ (systemCapabilityAssignableSettings bare (freesTo same isType fun _ _ => rfl))
  | smartTalkingMode => exact map _ (plain_freeable parseSystemCapabilitySmartTalkingMode_steady bare)
  | vibrator | powerSavingMode | controlByWearing => exact map _ (plain_freeable .enum bare)

theorem systemRetParam (bare : b.Bare base) {type : PacketType} (isType : b.packet.type = type)
    (frees : PacketMemory.FreesTo type (ByteEnum.byte SystemInquiredType.assignableSettings) 0) :
    Ends base (Freeable base) (buildSystemRetParam heap frame b) := by
  refine bind (bare_selector bare) fun inquiredType b₁ ⟨bare, same⟩ => ?_
  cases inquiredType with
  | assignableSettings => exact map _ (array .enum bare (freesTo same isType frees))
  | autoPowerOff => exact map _ (plain_freeable parseSystemParamAutoPowerOff_steady bare)
  | vibrator | powerSavingMode | controlByWearing | smartTalkingMode =>
    exact map _ (plain_freeable (.bind .enum fun _ => .bind .enum fun _ => .pure _) bare)

/-- All packets but those with a device info string. -/
theorem buildData {type : PacketType} (bare : b.Bare base) (isType : b.packet.type = type)
    (other : type ≠ .connectRetDeviceInfo) :
    Ends base (Freeable base) (Packet.buildData type heap frame b) := by
  cases type with
  | connectRetDeviceInfo => exact absurd rfl other
  | connectRetSupportFunction => exact map _ (connectRetSupportFunction bare isType)
  | eqebbRetCapability => exact map _ (eqebbRetCapability bare isType)
  | eqebbRetParam | eqebbSetParam | eqebbNtfyParam =>
    refine map _ (eqebbRetParam bare isType fun inquiredType other => ?_)
    cases inquiredType with
    | ebb => exact absurd rfl other
    | presetEq | presetEqNoncustomizable => exact fun _ _ => rfl
  | playRetParam | playSetParam | playNtfyParam =>
    refine map _ (playRetParam bare isType fun detailedDataType other => ?_)
    cases detailedDataType with
    | volume => exact absurd rfl other
    | _ => exact fun _ _ => rfl
  | systemRetCapability => exact map _ (systemRetCapability bare isType)
  | systemRetParam | systemSetParam | systemNtfyParam =>
    exact map _ (systemRetParam bare isType fun _ _ => rfl)
  | _ => exact plain_freeable (Packet.parseData_steady rfl) bare

end Ends

end Building

/-! ## The string of a device info -/

/-- The frames with a device info string whose bytes are all there. -/
def Frame.carriesInfoString (frame : Frame) : Bool :=
  match frame.payload with
  | type :: inquiredType :: len :: string =>
    type == ByteEnum.byte PacketType.connectRetDeviceInfo
      && (inquiredType == ByteEnum.byte DeviceInfoInquiredType.modelName
        || inquiredType == ByteEnum.byte DeviceInfoInquiredType.fwVersion)
      && min 128 len.toNat ≤ string.length
  | _ => false

/-- The blocks that no packet points to any more, by the number of the `malloc` for the packet:
the first one for a string, when the parser comes to the second one. -/
def Frame.lostBlocks (heap : Heap) (frame : Frame) (mallocs : Nat) : Finset Nat :=
  if frame.dataType = frameDataTypeDataMdr ∧ frame.carriesInfoString ∧ (heap mallocs).isSome ∧
      (heap (mallocs + 1)).isSome then
    {mallocs + 1}
  else ∅

namespace Parse

variable {heap : Heap} {frame : Frame} {cursor : Cursor}

/-- On a frame that holds its payload. -/
theorem byte_payload (body : frame.payloadLength.toNat ≤ frame.body.length) :
    byte heap frame cursor =
      match frame.payload[cursor.offset.toNat]? with
      | none => invalid heap frame cursor
      | some b => (.ok b, { cursor with
          offset := cursor.offset + 1, reads := cursor.reads ++ [⟨cursor.offset, 1⟩] }) := by
  unfold byte Frame.payload
  by_cases beyond : frame.payloadLength ≤ cursor.offset
  · rw [if_pos beyond, List.getElem?_eq_none]
    rw [List.length_take]
    exact Nat.le_trans (Nat.min_le_left _ _) (UInt32.le_iff_toNat_le.mp beyond)
  · have inside : cursor.offset.toNat < frame.payloadLength.toNat :=
      Nat.lt_of_not_le fun le => beyond (UInt32.le_iff_toNat_le.mpr le)
    rw [if_neg beyond, List.getElem?_take_of_lt inside,
      List.getElem?_eq_getElem (Nat.lt_of_lt_of_le inside body)]

theorem alloc_of_isSome (given : (heap cursor.mallocs).isSome) :
    alloc heap frame cursor = (.ok (), { cursor with mallocs := cursor.mallocs + 1 }) := by
  obtain ⟨block, isBlock⟩ := Option.isSome_iff_exists.mp given
  rw [alloc, isBlock]

theorem bytes_invalid (length : UInt8) :
    (bytes length heap frame cursor).1 = .error .invalidFrame ↔
      frame.payloadLength < cursor.offset + length.toUInt32 := by
  unfold bytes alloc
  split
  next beyond => exact ⟨fun _ => beyond, fun _ => rfl⟩
  next inside =>
    refine ⟨fun failed => ?_, fun beyond => absurd beyond inside⟩
    split at failed <;> rename_i ran
    · split at ran <;> cases ran
      cases failed
    · dsimp only at failed
      split at failed <;> cases failed

/-- A byte that was read is in the payload. -/
theorem byte_ok (body : frame.payloadLength.toNat ≤ frame.body.length) {b : UInt8}
    {after : Cursor} (run : byte heap frame cursor = (.ok b, after)) :
    frame.payload[cursor.offset.toNat]? = some b ∧ after.offset = cursor.offset + 1 ∧
      after.mallocs = cursor.mallocs := by
  rw [byte_payload body] at run
  split at run <;> rename_i here <;> cases run
  exact ⟨here, rfl, rfl⟩

theorem byte_error (body : frame.payloadLength.toNat ≤ frame.body.length) {failure : ParseFailure}
    {after : Cursor} (run : byte heap frame cursor = (.error failure, after)) :
    frame.payload[cursor.offset.toNat]? = none := by
  rw [byte_payload body] at run
  split at run <;> rename_i here
  · exact here
  · cases run

variable {α : Type} [ByteEnum α]

theorem enum_ok (body : frame.payloadLength.toNat ≤ frame.body.length) {a : α} {after : Cursor}
    (run : enum heap frame cursor = (.ok a, after)) :
    frame.payload[cursor.offset.toNat]? = some (ByteEnum.byte a) ∧
      after.offset = cursor.offset + 1 ∧ after.mallocs = cursor.mallocs := by
  change bind byte _ heap frame cursor = _ at run
  unfold bind at run
  split at run <;> rename_i ran
  · rename_i byte _
    dsimp only at run
    cases known : (ByteEnum.ofByte byte : Option α) with
    | none =>
      rw [known] at run
      cases run
    | some value =>
      rw [known] at run
      cases run
      rw [ByteEnum.byte_of_ofByte known]
      exact byte_ok body ran
  · cases run

theorem enum_error (body : frame.payloadLength.toNat ≤ frame.body.length) {failure : ParseFailure}
    {after : Cursor} (run : (enum : Parse α) heap frame cursor = (.error failure, after)) (a : α) :
    frame.payload[cursor.offset.toNat]? ≠ some (ByteEnum.byte a) := by
  change bind byte _ heap frame cursor = _ at run
  unfold bind at run
  split at run <;> rename_i ran
  · rw [(byte_ok body ran).1]
    rintro isByte
    dsimp only at run
    rw [Option.some.inj isByte, ByteEnum.ofByte_byte] at run
    cases run
  · rw [byte_error body ran]
    exact nofun

end Parse

theorem Build.alloc_ok {heap : Heap} {frame : Frame} {place : List Nat} {b b' : Building}
    (run : alloc place heap frame b = some (.ok (), b')) :
    (heap b.cursor.mallocs).isSome ∧
      b' = allocated b place { b.cursor with mallocs := b.cursor.mallocs + 1 } := by
  unfold alloc at run
  split at run <;> rename_i ran
  · unfold Parse.alloc at ran
    split at ran <;> cases ran
    rename_i given
    cases run
    exact ⟨by rw [given]; rfl, rfl⟩
  · obtain ⟨_, _, failed, _⟩ := abandon_eq run
    cases failed

/-- The bounds check for a string that is cut at 128 bytes. -/
theorem infoString_beyond (frame : Frame) (len : UInt8) :
    frame.payloadLength < 3 + (if 128 < len then 128 else len).toUInt32 ↔
      frame.payloadLength.toNat < 3 + min 128 len.toNat := by
  have cut : (if 128 < len then 128 else len).toNat = min 128 len.toNat := by
    split
    next long =>
      rw [UInt8.lt_iff_toNat_lt] at long
      exact (Nat.min_eq_left (Nat.le_of_lt long)).symm
    next short =>
      rw [UInt8.lt_iff_toNat_lt] at short
      exact (Nat.min_eq_right (Nat.le_of_not_lt short)).symm
  have small := len.toNat_lt
  rw [UInt32.lt_iff_toNat_lt, UInt32.toNat_add, UInt8.toNat_toUInt32, cut,
    show (3 : UInt32).toNat = 3 from rfl, Nat.mod_eq_of_lt (by omega)]

/-- The inquired type of the payload is one with a string. -/
def Frame.InquiresString (frame : Frame) : Prop :=
  frame.payload[1]? = some (ByteEnum.byte DeviceInfoInquiredType.modelName) ∨
    frame.payload[1]? = some (ByteEnum.byte DeviceInfoInquiredType.fwVersion)

/-- Behind the inquired type the payload has a string. -/
def Frame.HoldsString (frame : Frame) : Prop :=
  ∃ len, frame.payload[2]? = some len ∧ 3 + min 128 len.toNat ≤ frame.payloadLength.toNat

namespace Building.Ends

variable {α β : Type} {base base' : Finset Nat} {heap : Heap} {frame : Frame} {b : Building}

/-- A step before a block may be lost. -/
theorem bind_before {first : Build α} {part : Parse α} {next : α → Build β}
    {post : α → Building → Prop} {lastPost : β → Building → Prop} (forgets : first.Forgets part)
    (ends : Ends base post (first heap frame b))
    (kept : ∀ failure after, part heap frame b.cursor = (.error failure, after) → base' = base)
    (later : ∀ a b', first heap frame b = some (.ok a, b') → post a b' →
      Ends base' lastPost (next a heap frame b')) :
    Ends base' lastPost ((first >>= next) heap frame b) := by
  obtain ⟨result, b', ran, outcome⟩ := ends
  change Ends base' lastPost (Build.bind first next heap frame b)
  unfold Build.bind
  rw [ran]
  cases result with
  | ok a => exact later a b' ran outcome
  | error failure =>
    rw [kept _ _ (forgets _ _ _ _ _ ran)]
    refine ⟨_, _, rfl, ?_⟩
    cases failure <;> exact outcome

/-- The second allocation of a string. The packet forgets the first block. -/
theorem bytes_again {length : UInt8} {cursor : Cursor} (bare : b.Bare base)
    (frees : PacketMemory.FreesTo b.packet.type b.packet.selector 0)
    (more : cursor.mallocs = b.cursor.mallocs + 1)
    (kept : frame.payloadLength < cursor.offset + length.toUInt32 → base' = base)
    (lost : ¬ frame.payloadLength < cursor.offset + length.toUInt32 →
      base' = insert b.cursor.mallocs base) :
    Ends base' (Freeable base')
      (Build.bytes [] length heap frame (Build.allocated b [] cursor)) := by
  have counted := Parse.bytes_mallocs length heap frame (Build.allocated b [] cursor).cursor
  have bounds : (Parse.bytes length heap frame (Build.allocated b [] cursor).cursor).1 = _ ↔ _ :=
    Parse.bytes_invalid length
  unfold Build.bytes
  split <;> rename_i after ran <;> rw [ran] at counted bounds
  · rw [lost fun beyond => nomatch bounds.mpr beyond]
    have owns : (Build.allocated _ [] after).Owns _ 0 := (bare.forget more).owns.allocated frees
      (Nat.le_refl 0) (fun same => by simp at same) (bare.null []) counted
    refine ⟨_, _, rfl, ?_⟩
    change ((b.packet.setPointer [] _).setPointer [] _).free _ = _
    rw [PacketMemory.setPointer_again]
    exact owns.free
  · exact ⟨_, _, rfl, trivial⟩
  · rw [kept (bounds.mp rfl)]
    have owns : (Build.allocated b [] cursor).Owns base 0 := bare.owns.allocated frees
      (Nat.le_refl 0) (fun same => by simp at same) (bare.null []) more
    exact abandon (owns.forward counted.ge)
  · rw [lost fun beyond => nomatch bounds.mpr beyond]
    have owns := (bare.forget more).owns.forward (Nat.le.intro counted.symm)
    have same : (b.packet.setPointer [] (some b.cursor.mallocs)).setPointer [] none = b.packet := by
      rw [PacketMemory.setPointer_again, ← bare.null [], PacketMemory.setPointer,
        Blocks.Tree.setPointer, Function.update_eq_self]
    change Ends _ _ (Build.abandon _ { b with
      cursor := after, live := _, packet := (b.packet.setPointer [] _).setPointer [] none })
    rw [same]
    exact abandon owns

theorem deviceInfoString (bare : b.Bare base)
    (frees : PacketMemory.FreesTo b.packet.type b.packet.selector 0)
    (body : frame.payloadLength.toNat ≤ frame.body.length) (behind : b.cursor.offset = 2)
    (kept : ¬ (frame.HoldsString ∧ (heap b.cursor.mallocs).isSome) → base' = base)
    (lost : frame.HoldsString → (heap b.cursor.mallocs).isSome →
      base' = insert b.cursor.mallocs base) :
    Ends base' (Freeable base') (buildDeviceInfoString heap frame b) := by
  refine bind_before (.plain _) (bare_plain .byte bare) (fun _ _ ran => ?_)
    fun len b₁ ran ⟨bare₁, same⟩ => ?_
  · refine kept fun ⟨⟨len, isLen, _⟩, _⟩ => ?_
    have missing := Parse.byte_error body ran
    rw [behind] at missing
    exact nomatch missing.symm.trans isLen
  obtain ⟨isLen, offset, mallocs⟩ := Parse.byte_ok body (Build.Forgets.plain _ _ _ _ _ _ ran)
  rw [behind] at isLen offset
  rw [← mallocs] at kept lost
  rw [← same] at frees
  refine bind_before (.alloc _) (alloc bare₁.owns (bare₁.ready frees)) (fun _ _ ran => ?_)
    fun _ b₂ ran _ => ?_
  · refine kept fun ⟨_, given⟩ => ?_
    rw [Parse.alloc_of_isSome given] at ran
    cases ran
  -- Behind the first allocation the pointer is set.
  obtain ⟨given, rfl⟩ := Build.alloc_ok ran
  have beyond : frame.payloadLength <
      b₁.cursor.offset + (if 128 < len then 128 else len).toUInt32 ↔ ¬ frame.HoldsString := by
    rw [offset]
    refine (infoString_beyond frame len).trans ⟨fun short => ?_, fun none => ?_⟩
    · rintro ⟨len', isLen', fits⟩
      obtain rfl := Option.some.inj (isLen.symm.trans isLen')
      omega
    · exact Nat.lt_of_not_le fun fits => none ⟨len, isLen, fits⟩
  refine bind (bytes_again bare₁ frees rfl (fun short => ?_) fun inside => ?_)
    fun _ _ freeable => pure freeable
  · exact kept fun held => beyond.mp short held.1
  · exact lost (by_contra fun none => inside (beyond.mpr none)) given

theorem connectRetDeviceInfo (bare : b.Bare base) (isType : b.packet.type = .connectRetDeviceInfo)
    (body : frame.payloadLength.toNat ≤ frame.body.length) (behind : b.cursor.offset = 1)
    (kept : ¬ (frame.InquiresString ∧ frame.HoldsString ∧ (heap b.cursor.mallocs).isSome) →
      base' = base)
    (lost : frame.InquiresString → frame.HoldsString → (heap b.cursor.mallocs).isSome →
      base' = insert b.cursor.mallocs base) :
    Ends base' (Freeable base') (buildConnectRetDeviceInfo heap frame b) := by
  refine bind_before .selector (bare_selector bare) (fun _ _ ran => ?_)
    fun inquiredType b₁ ran ⟨bare₁, same⟩ => ?_
  · have missing := Parse.enum_error (α := DeviceInfoInquiredType) body ran
    rw [behind] at missing
    exact kept fun ⟨isName, _⟩ => isName.elim (missing _) (missing _)
  obtain ⟨isInquired, offset, mallocs⟩ :=
    Parse.enum_ok body (Build.Forgets.selector _ _ _ _ _ ran)
  rw [behind] at isInquired offset
  change frame.payload[1]? = _ at isInquired
  rw [← mallocs] at kept lost
  have string (inquires : frame.InquiresString)
      (frees : PacketMemory.FreesTo .connectRetDeviceInfo (ByteEnum.byte inquiredType) 0) :
      Ends base' (Freeable base') (buildDeviceInfoString heap frame b₁) :=
    deviceInfoString bare₁ (freesTo same isType frees) body offset
      (fun none => kept fun carried => none carried.2) (lost inquires)
  have other (isOther : inquiredType ≠ .modelName ∧ inquiredType ≠ .fwVersion) : base' = base := by
    refine kept fun ⟨isName, _⟩ => ?_
    unfold Frame.InquiresString at isName
    rw [isInquired, Option.some.injEq, Option.some.injEq] at isName
    exact isName.elim (fun same => isOther.1 (ByteEnum.byte_injective same))
      fun same => isOther.2 (ByteEnum.byte_injective same)
  cases inquiredType with
  | modelName => exact map _ (string (.inl isInquired) fun _ _ => rfl)
  | fwVersion => exact map _ (string (.inr isInquired) fun _ _ => rfl)
  | seriesAndColor =>
    rw [other (by decide)]
    exact map _ (plain_freeable parseDeviceInfoSeriesAndColor_steady bare₁)
  | instructionGuide =>
    rw [other (by decide)]
    exact map _ (array .enum bare₁ (freesTo same isType fun _ _ => rfl))

end Building.Ends

/-! ## Every frame -/

theorem Frame.carriesInfoString_iff {frame : Frame}
    (body : frame.payloadLength.toNat ≤ frame.body.length) : frame.carriesInfoString ↔
      frame.payload[0]? = some (ByteEnum.byte PacketType.connectRetDeviceInfo) ∧
        frame.InquiresString ∧ frame.HoldsString := by
  have length : frame.payload.length = frame.payloadLength.toNat := by
    rw [payload, List.length_take, Nat.min_eq_left body]
  unfold carriesInfoString InquiresString HoldsString
  rw [← length]
  rcases frame.payload with _ | ⟨type, _ | ⟨inquiredType, _ | ⟨len, string⟩⟩⟩
  · simp
  · simp
  · simp
  · have longer : min 128 len.toNat ≤ string.length ↔
        3 + min 128 len.toNat ≤ string.length + 1 + 1 + 1 := by omega
    simp [and_assoc, longer]

namespace Packet

variable {heap : Heap} {frame : Frame} {live : Finset Nat}

theorem lostBlocks_none {mallocs : Nat} (none : ¬ (frame.dataType = frameDataTypeDataMdr ∧
      frame.carriesInfoString ∧ (heap mallocs).isSome ∧ (heap (mallocs + 1)).isSome)) :
    live ∪ frame.lostBlocks heap mallocs = live := by
  rw [Frame.lostBlocks, if_neg none, Finset.union_empty]

/-- What follows the allocation of the packet. -/
theorem buildData_ends {type : PacketType} {b : Building} (bare : b.Bare live)
    (isType : b.packet.type = type) (isData : frame.dataType = frameDataTypeDataMdr)
    (body : frame.payloadLength.toNat ≤ frame.body.length)
    (first : frame.payload[0]? = some (ByteEnum.byte type)) (behind : b.cursor.offset = 1)
    {mallocs : Nat} (given : (heap mallocs).isSome) (more : b.cursor.mallocs = mallocs + 1) :
    Building.Ends (live ∪ frame.lostBlocks heap mallocs)
      (Building.Freeable (live ∪ frame.lostBlocks heap mallocs))
      (buildData type heap frame b) := by
  have carries := Frame.carriesInfoString_iff body
  by_cases isInfo : type = .connectRetDeviceInfo
  · subst isInfo
    refine .map _ (.connectRetDeviceInfo bare isType body behind (fun none => ?_) fun inquires holds
      string => ?_)
    · refine lostBlocks_none fun ⟨_, carried, _, string⟩ => none ?_
      obtain ⟨_, inquires, holds⟩ := carries.mp carried
      exact ⟨inquires, holds, more ▸ string⟩
    · rw [more] at string
      rw [Frame.lostBlocks, if_pos ⟨isData, carries.mpr ⟨first, inquires, holds⟩, given, string⟩,
        more, Finset.insert_eq, Finset.union_comm]
  · rw [lostBlocks_none]
    · exact .buildData bare isType isInfo
    · rintro ⟨_, carried, _⟩
      have same := first.symm.trans (carries.mp carried).1
      exact isInfo (ByteEnum.byte_injective (Option.some.inj same))

/-- Blocks that are left: at once when a call returns no packet, else when the packet is freed. -/
def Leaves (left live : Finset Nat) : Option (Packet × PacketMemory) → Prop
  | none => live = left
  | some (_, packet) => packet.free live = some left

/-- What `mdr_packet_from_frame` leaves, by the checks that it makes before it builds the packet. -/
theorem fromFrameInMemory_leaves (heap : Heap) {frame : Frame} (h : Host) {live : Finset Nat}
    (body : frame.payloadLength.toNat ≤ frame.body.length) (older : ∀ a ∈ live, a < h.mallocs) :
    ∃ result h' live', fromFrameInMemory heap frame h live = some (result, h', live') ∧
      Leaves (live ∪ frame.lostBlocks heap h.mallocs) live' result := by
  have carries := Frame.carriesInfoString_iff body
  by_cases other : frame.dataType ≠ frameDataTypeDataMdr
  · exact ⟨none, _, _, by rw [fromFrameInMemory, if_pos other],
      (lostBlocks_none fun lost => other lost.1).symm⟩
  have isData := not_not.mp other
  by_cases empty : frame.payloadLength < 1
  · refine ⟨none, _, _, by rw [fromFrameInMemory, if_neg other, if_pos empty], ?_⟩
    refine (lostBlocks_none ?_).symm
    rintro ⟨-, carried, -⟩
    have first := (carries.mp carried).1
    have zero : frame.payloadLength.toNat = 0 :=
      Nat.lt_one_iff.mp (UInt32.lt_iff_toNat_lt.mp empty)
    simp [Frame.payload, zero] at first
  have nonempty : 0 < frame.payloadLength.toNat :=
    Nat.pos_of_ne_zero fun zero => empty (UInt32.lt_iff_toNat_lt.mpr (by rw [zero]; decide))
  obtain ⟨first, isFirst⟩ : ∃ first, frame.body[0]? = some first :=
    ⟨_, List.getElem?_eq_getElem (Nat.lt_of_lt_of_le nonempty body)⟩
  have inPayload : frame.payload[0]? = some first := by
    rw [Frame.payload, List.getElem?_take_of_lt nonempty, isFirst]
  cases known : (ByteEnum.ofByte first : Option PacketType) with
  | none =>
    refine ⟨none, { h with errno := mdrEInvalidFrame }, live, ?_, ?_⟩
    · simp only [fromFrameInMemory, if_neg other, if_neg empty, isFirst, known]
    · refine (lostBlocks_none ?_).symm
      rintro ⟨-, carried, -⟩
      have same := inPayload.symm.trans (carries.mp carried).1
      rw [Option.some.inj same, ByteEnum.ofByte_byte] at known
      cases known
  | some type =>
    obtain rfl := ByteEnum.byte_of_ofByte known
    cases given : heap h.mallocs with
    | none =>
      refine ⟨none, { h with errno := enomem, mallocs := h.mallocs + 1 }, live, ?_, ?_⟩
      · simp only [fromFrameInMemory, if_neg other, if_neg empty, isFirst, known, Parse.alloc, given]
        rfl
      · refine (lostBlocks_none ?_).symm
        rintro ⟨-, -, given', -⟩
        rw [given] at given'
        cases given'
    | some block =>
      have allocated : (heap h.mallocs).isSome := Option.isSome_iff_exists.mpr ⟨block, given⟩
      have built : Building.Ends _ (Building.Freeable _) (buildData type heap frame
          { cursor := ⟨1, h.errno, h.mallocs + 1, [⟨0, 1⟩]⟩
            packet := .new type h.mallocs, live := insert h.mallocs live }) :=
        buildData_ends (.new older rfl) rfl isData body inPayload rfl allocated rfl
      obtain ⟨result, b, built, outcome⟩ := built
      cases result with
      | ok packet =>
        refine ⟨some (packet, b.packet), b.cursor.onHost h, b.live, ?_, outcome⟩
        simp only [fromFrameInMemory, if_neg other, if_neg empty, isFirst, known, Parse.alloc,
          given, built]
      | error failure =>
        cases failure with
        | invalidFrame | noMemory =>
          refine ⟨none, b.cursor.onHost h, b.live, ?_, outcome⟩
          simp only [fromFrameInMemory, if_neg other, if_neg empty, isFirst, known, Parse.alloc,
            given, built]
        | outOfBounds =>
          -- The frame holds its payload.
          obtain ⟨returned, returns⟩ := fromFrame_returns heap h body
          have parsed : parse type heap frame (start h) = (.error .outOfBounds, b.cursor) := by
            change Parse.bind Parse.alloc _ heap frame (start h) = _
            unfold Parse.bind
            rw [Parse.alloc_of_isSome allocated]
            exact buildData_forgets type _ _ _ _ _ built
          rw [fromFrame_error isData empty isFirst parsed, if_pos rfl] at returns
          cases returns

/-- **The lifetime of a packet.** Whichever allocations fail, `mdr_packet_from_frame` makes no
invalid `free`. When it returns no packet it has freed what it allocated, and `mdr_packet_free`
frees what it returns, but for the first block for the string of a device info. -/
theorem fromFrameInMemory_frees (heap : Heap) {frame : Frame} (h : Host) {live : Finset Nat}
    (body : frame.payloadLength.toNat ≤ frame.body.length) (older : ∀ a ∈ live, a < h.mallocs) :
    ∃ result h' live', fromFrameInMemory heap frame h live = some (result, h', live') ∧
      fromFrame heap frame h = some (result.map Prod.fst, h') ∧
      Leaves (live ∪ frame.lostBlocks heap h.mallocs) live' result := by
  obtain ⟨result, h', live', ran, frees⟩ := fromFrameInMemory_leaves heap h body older
  exact ⟨result, h', live', ran, fromFrame_of_inMemory ran, frees⟩

/-- `fromFrameInMemory_frees` on the frame of a model name. Block 7 is the packet, 8 is lost. -/
theorem fromFrameInMemory_frees_model_name :
    ∃ result h' live', fromFrameInMemory (fun _ => some [])
        ⟨0x0c, 0, 5, [0x05, 0x01, 0x02, 0x58, 0x4d, 0xbe]⟩ ⟨0, [], [], 7, [], []⟩ {3} =
          some (result, h', live') ∧
      fromFrame (fun _ => some []) ⟨0x0c, 0, 5, [0x05, 0x01, 0x02, 0x58, 0x4d, 0xbe]⟩
        ⟨0, [], [], 7, [], []⟩ = some (result.map Prod.fst, h') ∧
      Leaves ({3} ∪ {8}) live' result := by
  have lost : Frame.lostBlocks (fun _ => some [])
      ⟨0x0c, 0, 5, [0x05, 0x01, 0x02, 0x58, 0x4d, 0xbe]⟩ 7 = {8} := by decide
  rw [← lost]
  exact fromFrameInMemory_frees (fun _ => some [])
    ⟨0, [], [], 7, [], []⟩ (by decide) (by decide)

end Packet

end Libmdr
