import Libmdr.Lib.Blocks
import Libmdr.Packet.Packet
import Mathlib.Data.Finset.Insert

/-!
# Packets in memory

A packet with the blocks that it owns. The parsers allocate a block for the packet and one for
each string and array, and store its address where the C code does; when they fail they call
`mdr_packet_free` on what they have filled in so far. Blocks are known by the number of the
`malloc` that gave them. What the parsers return is that of the parsers without addresses.
-/

namespace Libmdr
set_option autoImplicit false

/-! ## Freeing a packet -/

/-- `mdr_packet_t` as far as `mdr_packet_free` reads it: the type, the inquired type (for PLAY the
detailed data type) as it was stored, and the pointers. The members of the union that have a
pointer have it in the same place. -/
structure PacketMemory where
  type : PacketType
  selector : UInt8
  blocks : Blocks.Tree Nat

namespace PacketMemory

/-- A packet behind the `memset` of `PARSE_INIT`. -/
def new (type : PacketType) (address : Nat) : PacketMemory :=
  { type, selector := 0, blocks := .empty address }

/-- `FREE_FIELD` of the only pointer. -/
def freeField (packet : PacketMemory) (live : Finset Nat) : Option (Finset Nat) :=
  packet.blocks.free 0 [] live

/-- `FREE_FOR_EACH_IN_PACKET` of an array with a pointer in each element, then `FREE_FIELD`. -/
def freeForEach (packet : PacketMemory) (live : Finset Nat) : Option (Finset Nat) :=
  packet.blocks.free 1 [] live

/-- `FREE_FOR_EACH_IN_PACKET` around `FREE_FOR_EACH_IN_VALUE`, then `FREE_FIELD`. -/
def freeForEachForEach (packet : PacketMemory) (live : Finset Nat) : Option (Finset Nat) :=
  packet.blocks.free 2 [] live

/-- `mdr_packet_connect_free`. -/
def connectFree (packet : PacketMemory) (live : Finset Nat) : Option (Finset Nat) :=
  match packet.type with
  | .connectRetDeviceInfo =>
    match (ByteEnum.ofByte packet.selector : Option DeviceInfoInquiredType) with
    | some .modelName => packet.freeField live
    | some .fwVersion => packet.freeField live
    | some .seriesAndColor => some live
    | some .instructionGuide => packet.freeField live
    | none => some live
  | .connectRetSupportFunction => packet.freeField live
  | _ => some live

/-- `mdr_packet_common_free`. -/
def commonFree (_ : PacketMemory) (live : Finset Nat) : Option (Finset Nat) := some live

/-- `mdr_packet_eqebb_free`. -/
def eqebbFree (packet : PacketMemory) (live : Finset Nat) : Option (Finset Nat) :=
  match packet.type with
  | .eqebbRetCapability =>
    match (ByteEnum.ofByte packet.selector : Option EqebbInquiredType) with
    | some .presetEq | some .presetEqNoncustomizable => packet.freeForEach live
    | some .ebb | none => some live
  | .eqebbRetParam | .eqebbSetParam | .eqebbNtfyParam =>
    match (ByteEnum.ofByte packet.selector : Option EqebbInquiredType) with
    | some .presetEq | some .presetEqNoncustomizable => packet.freeField live
    | some .ebb | none => some live
  | _ => some live

/-- `mdr_packet_ncasm_free`. -/
def ncasmFree (_ : PacketMemory) (live : Finset Nat) : Option (Finset Nat) := some live

/-- `mdr_packet_play_free`. -/
def playFree (packet : PacketMemory) (live : Finset Nat) : Option (Finset Nat) :=
  match packet.type with
  | .playRetParam | .playSetParam | .playNtfyParam =>
    match (ByteEnum.ofByte packet.selector : Option PlayPlaybackDetailedDataType) with
    | some .trackName | some .albumName | some .artistName | some .genreName
    | some .playerName => packet.freeField live
    | some .volume | none => some live
  | _ => some live

/-- `mdr_packet_system_free`. -/
def systemFree (packet : PacketMemory) (live : Finset Nat) : Option (Finset Nat) :=
  match packet.type with
  | .systemRetCapability =>
    match (ByteEnum.ofByte packet.selector : Option SystemInquiredType) with
    | some .vibrator | some .powerSavingMode | some .controlByWearing => some live
    | some .autoPowerOff => packet.freeField live
    | some .smartTalkingMode => some live
    | some .assignableSettings => packet.freeForEachForEach live
    | none => some live
  | .systemRetParam | .systemSetParam | .systemNtfyParam =>
    match (ByteEnum.ofByte packet.selector : Option SystemInquiredType) with
    | some .vibrator | some .powerSavingMode | some .controlByWearing | some .autoPowerOff
    | some .smartTalkingMode => some live
    | some .assignableSettings => packet.freeField live
    | none => some live
  | _ => some live

/-- The switch of `mdr_packet_free` over the families. -/
def freeFields (packet : PacketMemory) (live : Finset Nat) : Option (Finset Nat) :=
  match packet.type with
  | .connectGetProtocolInfo | .connectRetProtocolInfo | .connectGetDeviceInfo
  | .connectRetDeviceInfo | .connectGetSupportFunction | .connectRetSupportFunction =>
    packet.connectFree live
  | .commonGetBatteryLevel | .commonRetBatteryLevel | .commonNtfyBatteryLevel | .commonSetPowerOff
  | .commonGetConnectionStatus | .commonRetConnectionStatus | .commonNtfyConnectionStatus =>
    packet.commonFree live
  | .eqebbGetCapability | .eqebbRetCapability | .eqebbGetParam | .eqebbRetParam | .eqebbSetParam
  | .eqebbNtfyParam => packet.eqebbFree live
  | .ncasmGetParam | .ncasmRetParam | .ncasmSetParam | .ncasmNtfyParam => packet.ncasmFree live
  | .playGetParam | .playRetParam | .playSetParam | .playNtfyParam => packet.playFree live
  | .systemGetCapability | .systemRetCapability | .systemGetParam | .systemRetParam
  | .systemSetParam | .systemNtfyParam => packet.systemFree live

/-- `mdr_packet_free`. `none` stands for a pointer that is freed twice or read in a freed block. -/
def free (packet : PacketMemory) (live : Finset Nat) : Option (Finset Nat) := do
  Blocks.release (some packet.blocks.root) (← packet.freeFields live)

def setPointer (packet : PacketMemory) (place : List Nat) (pointer : Option Nat) : PacketMemory :=
  { packet with blocks := packet.blocks.setPointer place pointer }

end PacketMemory

/-! ## Building a packet -/

/-- A parser's state: the packet it fills in, and the blocks that are allocated. -/
structure Building where
  cursor : Cursor
  packet : PacketMemory
  live : Finset Nat

/-- A parser that builds a packet in memory. -/
def Build (α : Type) : Type :=
  Heap → Frame → Building → Option (Except ParseFailure α × Building)

namespace Build

variable {α β : Type}

def pure (a : α) : Build α := fun _ _ b => some (.ok a, b)

def bind (first : Build α) (next : α → Build β) : Build β := fun heap frame b =>
  match first heap frame b with
  | none => none
  | some (.ok a, b) => next a heap frame b
  | some (.error failure, b) => some (.error failure, b)

instance : Monad Build where
  pure := pure
  bind := bind

/-- The end of `INVALID_FRAME`, and of a macro whose `malloc` fails. -/
def abandon (failure : ParseFailure) (b : Building) :
    Option (Except ParseFailure α × Building) := do
  let live ← b.packet.free b.live
  return (.error failure, { b with live })

/-- A part that allocates nothing. -/
def plain (part : Parse α) : Build α := fun heap frame b =>
  match part heap frame b.cursor with
  | (.ok a, cursor) => some (.ok a, { b with cursor })
  | (.error .outOfBounds, cursor) => some (.error .outOfBounds, { b with cursor })
  | (.error failure, cursor) => abandon failure { b with cursor }

/-- What is stored in the packet beside what the parser returns. -/
def store (change : PacketMemory → PacketMemory) : Build Unit := fun _ _ b =>
  some (.ok (), { b with packet := change b.packet })

/-- `PARSE_ENUM_INTO_PACKET` of the field that `mdr_packet_free` switches on. The byte is stored
before it is checked. -/
def selector [ByteEnum α] : Build α := do
  let byte ← plain Parse.byte
  store fun packet => { packet with selector := byte }
  match ByteEnum.ofByte byte with
  | some a => pure a
  | none => plain Parse.invalid

/-- `PARSE_BYTE_INTO_VALUE` of the number of elements of an array. -/
def count (place : List Nat) : Build UInt8 := do
  let byte ← plain Parse.byte
  store fun packet => { packet with blocks := packet.blocks.setCount place byte.toNat }
  pure byte

/-- A new block, by the number of its `malloc`, and a pointer to it. -/
def allocated (b : Building) (place : List Nat) (cursor : Cursor) : Building :=
  { cursor, packet := b.packet.setPointer place (some b.cursor.mallocs)
    live := insert b.cursor.mallocs b.live }

/-- `PARSE_ALLOC_VALUE`. -/
def alloc (place : List Nat) : Build Unit := fun heap frame b =>
  match Parse.alloc heap frame b.cursor with
  | (.ok (), cursor) => some (.ok (), allocated b place cursor)
  | (.error failure, cursor) =>
    abandon failure { b with cursor, packet := b.packet.setPointer place none }

/-- `PARSE_BYTES_INTO_VALUE`. The bounds are checked before `malloc`. -/
def bytes (place : List Nat) (length : UInt8) : Build (List UInt8) := fun heap frame b =>
  match Parse.bytes length heap frame b.cursor with
  | (.ok value, cursor) => some (.ok value, allocated b place cursor)
  | (.error .outOfBounds, cursor) => some (.error .outOfBounds, { b with cursor })
  | (.error .invalidFrame, cursor) => abandon .invalidFrame { b with cursor }
  | (.error .noMemory, cursor) =>
    abandon .noMemory { b with cursor, packet := b.packet.setPointer place none }

/-- The loop of `PARSE_FOR_EACH_INTO_VALUE`, from an element on. -/
def times (element : Nat → Build α) : Nat → Nat → Build (List α)
  | _, 0 => pure []
  | i, n + 1 => do
    let first ← element i
    let rest ← times element (i + 1) n
    pure (first :: rest)

/-- `PARSE_FOR_EACH_INTO_VALUE`. -/
def forEach (place : List Nat) (count : UInt8) (element : Nat → Build α) : Build (List α) := do
  alloc place
  times element 0 count.toNat

end Build

/-! ## The parsers that allocate -/

/-- The second allocation replaces the address of the first one. -/
def buildDeviceInfoString : Build DeviceInfoString := do
  let len ← Build.plain Parse.byte
  Build.alloc []
  let string ← Build.bytes [] (if 128 < len then 128 else len)
  return { len, string }

def buildDeviceInfoInstructionGuide : Build DeviceInfoInstructionGuide := do
  let numGuidanceCategories ← Build.plain Parse.byte
  let guidanceCategories ← Build.forEach [] numGuidanceCategories fun _ => Build.plain Parse.enum
  return { numGuidanceCategories, guidanceCategories }

def buildConnectRetDeviceInfo : Build ConnectRetDeviceInfo := do
  match ← (Build.selector : Build DeviceInfoInquiredType) with
  | .modelName => return .modelName (← buildDeviceInfoString)
  | .fwVersion => return .fwVersion (← buildDeviceInfoString)
  | .seriesAndColor => return .seriesAndColor (← Build.plain parseDeviceInfoSeriesAndColor)
  | .instructionGuide => return .instructionGuide (← buildDeviceInfoInstructionGuide)

def buildConnectRetSupportFunction : Build ConnectRetSupportFunction := do
  let fixedValue ← Build.plain Parse.fixedValue
  let numFunctionTypes ← Build.plain Parse.byte
  let functionTypes ← Build.forEach [] numFunctionTypes fun _ => Build.plain Parse.enum
  return { fixedValue, numFunctionTypes, functionTypes }

def buildEqebbCapabilityEqPresetName (i : Nat) : Build EqebbCapabilityEqPresetName := do
  let presetId ← Build.plain Parse.enum
  let nameLen ← Build.plain Parse.byte
  let name ← Build.bytes [i] nameLen
  return { presetId, nameLen, name }

def buildEqebbCapabilityEq : Build EqebbCapabilityEq := do
  let bandCount ← Build.plain Parse.byte
  let levelSteps ← Build.plain Parse.byte
  let numPresets ← Build.count []
  let presets ← Build.forEach [] numPresets buildEqebbCapabilityEqPresetName
  return { bandCount, levelSteps, numPresets, presets }

def buildEqebbRetCapability : Build EqebbRetCapability := do
  match ← (Build.selector : Build EqebbInquiredType) with
  | .presetEq => return .presetEq (← buildEqebbCapabilityEq)
  | .presetEqNoncustomizable => return .presetEqNoncustomizable (← buildEqebbCapabilityEq)
  | .ebb => return .ebb (← Build.plain parseEqebbCapabilityEbb)

def buildEqebbParamEq : Build EqebbParamEq := do
  let presetId ← Build.plain Parse.enum
  let numLevels ← Build.plain Parse.byte
  let levels ← Build.bytes [] numLevels
  return { presetId, numLevels, levels }

def buildEqebbRetParam : Build EqebbRetParam := do
  match ← (Build.selector : Build EqebbInquiredType) with
  | .presetEq => return .presetEq (← buildEqebbParamEq)
  | .presetEqNoncustomizable => return .presetEqNoncustomizable (← buildEqebbParamEq)
  | .ebb => return .ebb { level := ← Build.plain Parse.byte }

def buildPlayPlaybackString : Build PlayPlaybackString := do
  let status ← Build.plain Parse.enum
  let announced ← Build.plain Parse.byte
  let len := if announced > 128 then 128 else announced
  let data ← Build.bytes [] len
  return { status, len, data }

def buildPlayRetParam : Build PlayRetParam := do
  let inquiredType ← Build.plain Parse.enum
  match ← (Build.selector : Build PlayPlaybackDetailedDataType) with
  | .trackName => return { inquiredType, value := .trackName (← buildPlayPlaybackString) }
  | .albumName => return { inquiredType, value := .albumName (← buildPlayPlaybackString) }
  | .artistName => return { inquiredType, value := .artistName (← buildPlayPlaybackString) }
  | .genreName => return { inquiredType, value := .genreName (← buildPlayPlaybackString) }
  | .playerName => return { inquiredType, value := .playerName (← buildPlayPlaybackString) }
  | .volume => return { inquiredType, value := .volume (← Build.plain Parse.byte) }

def buildSystemCapabilityAutoPowerOff : Build SystemCapabilityAutoPowerOff := do
  let elementIdCount ← Build.plain Parse.byte
  let elementIds ← Build.forEach [] elementIdCount fun _ => Build.plain Parse.enum
  return { elementIdCount, elementIds }

def buildSystemAssignableSettingsCapabilityPreset (i j : Nat) :
    Build SystemAssignableSettingsCapabilityPreset := do
  let preset ← Build.plain Parse.enum
  let numCapabilityActions ← Build.plain Parse.byte
  let capabilityActions ← Build.forEach [i, j] numCapabilityActions
    fun _ => Build.plain parseSystemAssignableSettingsCapabilityAction
  return { preset, numCapabilityActions, capabilityActions }

def buildSystemAssignableSettingsCapabilityKey (i : Nat) :
    Build SystemAssignableSettingsCapabilityKey := do
  let key ← Build.plain Parse.enum
  let keyType ← Build.plain Parse.enum
  let defaultPreset ← Build.plain Parse.enum
  let numCapabilityPresets ← Build.count [i]
  let capabilityPresets ← Build.forEach [i] numCapabilityPresets
    (buildSystemAssignableSettingsCapabilityPreset i)
  return { key, keyType, defaultPreset, numCapabilityPresets, capabilityPresets }

def buildSystemCapabilityAssignableSettings : Build SystemCapabilityAssignableSettings := do
  let numCapabilityKeys ← Build.count []
  let capabilityKeys ← Build.forEach [] numCapabilityKeys
    buildSystemAssignableSettingsCapabilityKey
  return { numCapabilityKeys, capabilityKeys }

def buildSystemRetCapability : Build SystemRetCapability := do
  match ← (Build.selector : Build SystemInquiredType) with
  | .vibrator => return .vibrator { settingType := ← Build.plain Parse.enum }
  | .powerSavingMode => return .powerSavingMode { settingType := ← Build.plain Parse.enum }
  | .controlByWearing => return .controlByWearing { settingType := ← Build.plain Parse.enum }
  | .autoPowerOff => return .autoPowerOff (← buildSystemCapabilityAutoPowerOff)
  | .smartTalkingMode =>
    return .smartTalkingMode (← Build.plain parseSystemCapabilitySmartTalkingMode)
  | .assignableSettings => return .assignableSettings (← buildSystemCapabilityAssignableSettings)

def buildSystemParamAssignableSettings : Build SystemParamAssignableSettings := do
  let numPresets ← Build.plain Parse.byte
  let presets ← Build.forEach [] numPresets fun _ => Build.plain Parse.enum
  return { numPresets, presets }

def buildSystemRetParam : Build SystemRetParam := do
  match ← (Build.selector : Build SystemInquiredType) with
  | .vibrator => return .vibrator (← Build.plain parseSystemParamVibrator)
  | .powerSavingMode => return .powerSavingMode (← Build.plain parseSystemParamPowerSavingMode)
  | .controlByWearing => return .controlByWearing (← Build.plain parseSystemParamControlByWearing)
  | .autoPowerOff => return .autoPowerOff (← Build.plain parseSystemParamAutoPowerOff)
  | .smartTalkingMode => return .smartTalkingMode (← Build.plain parseSystemParamSmartTalkingMode)
  | .assignableSettings => return .assignableSettings (← buildSystemParamAssignableSettings)

namespace Packet

/-- What follows `PARSE_INIT` for a type. The other types have no pointers. -/
def buildData : PacketType → Build Packet
  | .connectRetDeviceInfo => return .connectRetDeviceInfo (← buildConnectRetDeviceInfo)
  | .connectRetSupportFunction => return .connectRetSupportFunction (← buildConnectRetSupportFunction)
  | .eqebbRetCapability => return .eqebbRetCapability (← buildEqebbRetCapability)
  | .eqebbRetParam => return .eqebbRetParam (← buildEqebbRetParam)
  | .eqebbSetParam => return .eqebbSetParam (← buildEqebbRetParam)
  | .eqebbNtfyParam => return .eqebbNtfyParam (← buildEqebbRetParam)
  | .playRetParam => return .playRetParam (← buildPlayRetParam)
  | .playSetParam => return .playSetParam (← buildPlayRetParam)
  | .playNtfyParam => return .playNtfyParam (← buildPlayRetParam)
  | .systemRetCapability => return .systemRetCapability (← buildSystemRetCapability)
  | .systemRetParam => return .systemRetParam (← buildSystemRetParam)
  | .systemSetParam => return .systemSetParam (← buildSystemRetParam)
  | .systemNtfyParam => return .systemNtfyParam (← buildSystemRetParam)
  | type => Build.plain (parseData type)

/-- `mdr_packet_from_frame` with the blocks that are allocated before and behind it. `none` stands
for a read outside the frame, or for an invalid `free`. -/
def fromFrameInMemory (heap : Heap) (frame : Frame) (h : Host) (live : Finset Nat) :
    Option (Option (Packet × PacketMemory) × Host × Finset Nat) :=
  if frame.dataType ≠ frameDataTypeDataMdr then
    some (none, { h with errno := mdrEInvalidPacket }, live)
  else if frame.payloadLength < 1 then
    some (none, { h with errno := mdrEInvalidFrame }, live)
  else
    match frame.body[0]? with
    | none => none
    | some first =>
      match (ByteEnum.ofByte first : Option PacketType) with
      | none => some (none, { h with errno := mdrEInvalidFrame }, live)
      | some type =>
        match Parse.alloc heap frame
            { offset := 1, errno := h.errno, mallocs := h.mallocs, reads := [⟨0, 1⟩] } with
        | (.error _, cursor) => some (none, cursor.onHost h, live)
        | (.ok (), cursor) =>
          match buildData type heap frame
              { cursor, packet := .new type h.mallocs, live := insert h.mallocs live } with
          | none => none
          | some (.ok packet, b) => some (some (packet, b.packet), b.cursor.onHost h, b.live)
          | some (.error .outOfBounds, _) => none
          | some (.error .invalidFrame, b) => some (none, b.cursor.onHost h, b.live)
          | some (.error .noMemory, b) => some (none, b.cursor.onHost h, b.live)

end Packet

/-! ## Without addresses -/

namespace Build

variable {α β : Type}

/-- A parser that builds a packet returns what another one does without addresses. -/
def Forgets (building : Build α) (part : Parse α) : Prop :=
  ∀ heap frame b result b', building heap frame b = some (result, b') →
    part heap frame b.cursor = (result, b'.cursor)

/-- Where a parser gives up it frees the packet that it was given, and reports why. -/
theorem abandon_eq {failure : ParseFailure} {b b' : Building} {result : Except ParseFailure α}
    (run : abandon failure b = some (result, b')) :
    ∃ live, b.packet.free b.live = some live ∧ result = .error failure ∧ b' = { b with live } := by
  simp only [abandon, Option.bind_eq_bind, Option.bind_eq_some_iff] at run
  obtain ⟨live, freed, run⟩ := run
  cases run
  exact ⟨live, freed, rfl, rfl⟩

namespace Forgets

theorem pure (a : α) : Forgets (Pure.pure a : Build α) (Pure.pure a) := by
  intro heap frame b result b' run
  cases run
  rfl

/-- One part after the other. -/
theorem bind {first : Build α} {next : α → Build β} {part : Parse α} {rest : α → Parse β}
    (same : first.Forgets part) (later : ∀ a, (next a).Forgets (rest a)) :
    Forgets (first >>= next) (part >>= rest) := by
  intro heap frame b result b' run
  change Build.bind first next heap frame b = _ at run
  change Parse.bind part rest heap frame b.cursor = _
  unfold Build.bind at run
  unfold Parse.bind
  split at run
  · cases run
  · rename_i between ran
    rw [same _ _ _ _ _ ran]
    exact later _ _ _ _ _ _ run
  · rename_i between ran
    cases run
    rw [same _ _ _ _ _ ran]

/-- A part that allocates nothing is the parser, but that it frees the packet when it fails. -/
theorem plain (part : Parse α) : Forgets (Build.plain part) part := by
  intro heap frame b result b' run
  unfold Build.plain at run
  split at run
  · rename_i ran
    cases run
    exact ran
  · rename_i ran
    cases run
    exact ran
  · rename_i ran
    obtain ⟨live, -, rfl, rfl⟩ := abandon_eq run
    exact ran

/-- What is stored does not count. -/
theorem store_bind {change : PacketMemory → PacketMemory} {next : Unit → Build α} {part : Parse α}
    (same : (next ()).Forgets part) : Forgets (Build.store change >>= next) part :=
  fun heap frame b => same heap frame { b with packet := change b.packet }

/-- The byte is stored for `mdr_packet_free` before it is checked. -/
theorem selector [ByteEnum α] : Forgets (Build.selector : Build α) Parse.enum := by
  refine bind (plain _) fun byte => store_bind ?_
  cases (ByteEnum.ofByte byte : Option α) with
  | none => exact plain _
  | some a => exact pure a

theorem count (place : List Nat) : Forgets (Build.count place) Parse.byte := by
  intro heap frame b result b' run
  have same := plain Parse.byte heap frame b
  change Build.bind (Build.plain Parse.byte) _ heap frame b = _ at run
  unfold Build.bind at run
  split at run <;> rename_i ran
  · cases run
  · cases run
    have read := same _ _ ran
    exact read
  · cases run
    exact same _ _ ran

/-- The parser counts the `malloc` calls, by whose numbers the blocks are told apart. -/
theorem alloc (place : List Nat) : Forgets (Build.alloc place) Parse.alloc := by
  intro heap frame b result b' run
  unfold Build.alloc at run
  split at run
  · rename_i ran
    cases run
    exact ran
  · rename_i ran
    obtain ⟨live, -, rfl, rfl⟩ := abandon_eq run
    exact ran

theorem bytes (place : List Nat) (length : UInt8) :
    Forgets (Build.bytes place length) (Parse.bytes length) := by
  intro heap frame b result b' run
  unfold Build.bytes at run
  split at run <;> rename_i ran
  · cases run
    exact ran
  · cases run
    exact ran
  · obtain ⟨live, -, rfl, rfl⟩ := abandon_eq run
    exact ran
  · obtain ⟨live, -, rfl, rfl⟩ := abandon_eq run
    exact ran

/-- A counted loop. The induction is on the elements that are left. -/
theorem times {element : Nat → Build α} {part : Parse α} (same : ∀ i, (element i).Forgets part)
    (n i : Nat) : Forgets (Build.times element i n) (Parse.times part n) := by
  induction n generalizing i with
  | zero => exact pure []
  | succ n ih => exact bind (same i) fun _ => bind (ih (i + 1)) fun _ => pure _

theorem forEach {element : Nat → Build α} {part : Parse α} (same : ∀ i, (element i).Forgets part)
    (place : List Nat) (count : UInt8) :
    Forgets (Build.forEach place count element) (Parse.forEach count part) :=
  bind (alloc place) fun _ => times same count.toNat 0

end Forgets

end Build

section Parsers

open Build.Forgets

theorem buildDeviceInfoString_forgets : buildDeviceInfoString.Forgets parseDeviceInfoString :=
  bind (plain _) fun _ => bind (alloc _) fun _ => bind (bytes _ _) fun _ => pure _

/-- The two strings are built by one function. -/
theorem buildConnectRetDeviceInfo_forgets :
    buildConnectRetDeviceInfo.Forgets parseConnectRetDeviceInfo := by
  refine bind selector fun inquiredType => ?_
  cases inquiredType with
  | modelName | fwVersion => exact bind buildDeviceInfoString_forgets fun _ => pure _
  | seriesAndColor => exact bind (plain _) fun _ => pure _
  | instructionGuide =>
    refine bind ?_ fun _ => pure _
    exact bind (plain _) fun _ => bind (forEach (fun _ => plain _) _ _) fun _ => pure _

theorem buildConnectRetSupportFunction_forgets :
    buildConnectRetSupportFunction.Forgets parseConnectRetSupportFunction :=
  bind (plain _) fun _ => bind (plain _) fun _ =>
    bind (forEach (fun _ => plain _) _ _) fun _ => pure _

/-- Each name has a place of its own; the parser does not know of places. -/
theorem buildEqebbCapabilityEq_forgets : buildEqebbCapabilityEq.Forgets parseEqebbCapabilityEq := by
  have preset (i : Nat) : (buildEqebbCapabilityEqPresetName i).Forgets
      parseEqebbCapabilityEqPresetName :=
    bind (plain _) fun _ => bind (plain _) fun _ => bind (bytes _ _) fun _ => pure _
  exact bind (plain _) fun _ => bind (plain _) fun _ => bind (count _) fun _ =>
    bind (forEach preset _ _) fun _ => pure _

theorem buildEqebbRetCapability_forgets :
    buildEqebbRetCapability.Forgets parseEqebbRetCapability := by
  refine bind selector fun inquiredType => ?_
  cases inquiredType with
  | presetEq | presetEqNoncustomizable =>
    exact bind buildEqebbCapabilityEq_forgets fun _ => pure _
  | ebb => exact bind (plain _) fun _ => pure _

theorem buildEqebbRetParam_forgets : buildEqebbRetParam.Forgets parseEqebbRetParam := by
  have levels : buildEqebbParamEq.Forgets parseEqebbParamEq :=
    bind (plain _) fun _ => bind (plain _) fun _ => bind (bytes _ _) fun _ => pure _
  refine bind selector fun inquiredType => ?_
  cases inquiredType with
  | presetEq | presetEqNoncustomizable => exact bind levels fun _ => pure _
  | ebb => exact bind (plain _) fun _ => pure _

theorem buildPlayRetParam_forgets : buildPlayRetParam.Forgets parsePlayRetParam := by
  have string : buildPlayPlaybackString.Forgets parsePlayPlaybackString :=
    bind (plain _) fun _ => bind (plain _) fun _ => bind (bytes _ _) fun _ => pure _
  refine bind (plain _) fun inquiredType => bind selector fun detailedDataType => ?_
  cases detailedDataType with
  | volume => exact bind (plain _) fun _ => pure _
  | _ => exact bind string fun _ => pure _

/-- The places of the inner lists are numbered by the outer loops. -/
theorem buildSystemCapabilityAssignableSettings_forgets :
    buildSystemCapabilityAssignableSettings.Forgets parseSystemCapabilityAssignableSettings := by
  have preset (i j : Nat) : (buildSystemAssignableSettingsCapabilityPreset i j).Forgets
      parseSystemAssignableSettingsCapabilityPreset :=
    bind (plain _) fun _ => bind (plain _) fun _ =>
      bind (forEach (fun _ => plain _) _ _) fun _ => pure _
  have key (i : Nat) : (buildSystemAssignableSettingsCapabilityKey i).Forgets
      parseSystemAssignableSettingsCapabilityKey :=
    bind (plain _) fun _ => bind (plain _) fun _ => bind (plain _) fun _ => bind (count _) fun _ =>
      bind (forEach (preset i) _ _) fun _ => pure _
  exact bind (count _) fun _ => bind (forEach key _ _) fun _ => pure _

theorem buildSystemRetCapability_forgets :
    buildSystemRetCapability.Forgets parseSystemRetCapability := by
  have elements : buildSystemCapabilityAutoPowerOff.Forgets parseSystemCapabilityAutoPowerOff :=
    bind (plain _) fun _ => bind (forEach (fun _ => plain _) _ _) fun _ => pure _
  refine bind selector fun inquiredType => ?_
  cases inquiredType with
  | autoPowerOff => exact bind elements fun _ => pure _
  | assignableSettings =>
    exact bind buildSystemCapabilityAssignableSettings_forgets fun _ => pure _
  | _ => exact bind (plain _) fun _ => pure _

theorem buildSystemRetParam_forgets : buildSystemRetParam.Forgets parseSystemRetParam := by
  have presets : buildSystemParamAssignableSettings.Forgets parseSystemParamAssignableSettings :=
    bind (plain _) fun _ => bind (forEach (fun _ => plain _) _ _) fun _ => pure _
  refine bind selector fun inquiredType => ?_
  cases inquiredType with
  | assignableSettings => exact bind presets fun _ => pure _
  | _ => exact bind (plain _) fun _ => pure _

end Parsers

/-- `PARSE_ALLOC_VALUE` fails for want of memory only. -/
theorem Parse.failure_of_alloc {heap : Heap} {frame : Frame} {before after : Cursor}
    {failure : ParseFailure} (run : Parse.alloc heap frame before = (.error failure, after)) :
    failure = .noMemory := by
  unfold Parse.alloc at run
  split at run <;> cases run
  rfl

namespace Packet

open Build.Forgets in
/-- All parsers of packets. -/
theorem buildData_forgets (type : PacketType) : (buildData type).Forgets (parseData type) := by
  cases type with
  | connectRetDeviceInfo => exact bind buildConnectRetDeviceInfo_forgets fun _ => pure _
  | connectRetSupportFunction => exact bind buildConnectRetSupportFunction_forgets fun _ => pure _
  | eqebbRetCapability => exact bind buildEqebbRetCapability_forgets fun _ => pure _
  | eqebbRetParam | eqebbSetParam | eqebbNtfyParam =>
    exact bind buildEqebbRetParam_forgets fun _ => pure _
  | playRetParam | playSetParam | playNtfyParam =>
    exact bind buildPlayRetParam_forgets fun _ => pure _
  | systemRetCapability => exact bind buildSystemRetCapability_forgets fun _ => pure _
  | systemRetParam | systemSetParam | systemNtfyParam =>
    exact bind buildSystemRetParam_forgets fun _ => pure _
  | _ => exact plain _

/-- With the addresses left out it is `mdr_packet_from_frame`. -/
theorem fromFrame_of_inMemory {heap : Heap} {frame : Frame} {h h' : Host} {live live' : Finset Nat}
    {result : Option (Packet × PacketMemory)}
    (run : fromFrameInMemory heap frame h live = some (result, h', live')) :
    fromFrame heap frame h = some (result.map Prod.fst, h') := by
  unfold fromFrameInMemory at run
  unfold fromFrame
  by_cases other : frame.dataType ≠ frameDataTypeDataMdr
  · rw [if_pos other] at run ⊢
    cases run
    rfl
  rw [if_neg other] at run ⊢
  by_cases empty : frame.payloadLength < 1
  · rw [if_pos empty] at run ⊢
    cases run
    rfl
  rw [if_neg empty] at run ⊢
  cases first : frame.body[0]? with
  | none =>
    rw [first] at run
    cases run
  | some byte =>
    rw [first] at run
    dsimp only at run ⊢
    cases known : (ByteEnum.ofByte byte : Option PacketType) with
    | none =>
      rw [known] at run
      cases run
      rfl
    | some type =>
      rw [known] at run
      dsimp only at run ⊢
      have steps (cursor : Cursor) :
          parse type heap frame cursor = Parse.bind Parse.alloc (fun _ => parseData type) heap frame
            cursor := rfl
      rw [steps]
      unfold Parse.bind
      split at run <;> rename_i allocated <;> rw [allocated]
      · rw [Parse.failure_of_alloc allocated]
        cases run
        rfl
      · split at run <;> rename_i built
        · cases run
        all_goals have parsed := buildData_forgets type _ _ _ _ _ built
        all_goals dsimp only at parsed ⊢
        all_goals rw [parsed]
        all_goals cases run
        all_goals rfl

end Packet

end Libmdr
