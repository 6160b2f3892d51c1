import Libmdr.Packet.PrefixDetermined

/-!
# Packets there and back

What it takes for a packet to come back from `mdr_packet_from_frame` after
`mdr_packet_to_frame`: the frame holds the bytes that were written, so the parser of the
type has to return the packet on these. A packet for which encoder and decoder `Agree`
comes back; one whose bytes are read as something else, or refused, does not.
-/

namespace Libmdr
set_option autoImplicit false

open Parse

/-- A length that a decoder does not cut. -/
theorem cut_eq_self {len : UInt8} (fits : len.toNat ≤ 128) :
    (if 128 < len then 128 else len) = len := by
  refine if_neg ?_
  intro long
  rw [UInt8.lt_iff_toNat_lt] at long
  exact absurd long (Nat.not_lt.mpr fits)

namespace Packet

/-- Encoded, whatever is in the memory of the frame, and decoded again, a packet is the
same. -/
def RoundTrips (packet : Packet) : Prop :=
  ∀ (heap : Heap) (h : Host), heap.NeverFails →
    ∃ frame h', packet.toFrame heap h = some (some frame, h') ∧
      ∀ (heap' : Heap) (h₁ : Host), heap'.NeverFails →
        ∃ h₂, fromFrame heap' frame h₁ = some (some packet, h₂)

/-- The bytes that the encoder writes behind the type are accepted as the packet. -/
def Agrees (packet : Packet) : Prop :=
  ∃ size bytes, packet.layouts = some [⟨size, bytes⟩] ∧ (parse packet.type).Accepts bytes packet

/-- The types of a family that has no battery level. -/
theorem not_isBatteryLevel_of {family : PacketType → Prop} {packet : Packet}
    (isFamily : family packet.type) (notRet : ¬ family .commonRetBatteryLevel)
    (notNtfy : ¬ family .commonNtfyBatteryLevel) : ¬ packet.IsBatteryLevel := by
  rintro (isRet | isNtfy)
  · rw [isRet] at isFamily
    exact notRet isFamily
  · rw [isNtfy] at isFamily
    exact notNtfy isFamily

/-- A parser of the data of a packet accepts what it does behind the allocation of the packet. -/
theorem accepts_member {α : Type} {p : Parse α} (make : α → Packet) {bytes : List UInt8} {a : α}
    (accepts : p.Accepts bytes a) : Accepts (do
      Parse.alloc
      let data ← p
      Pure.pure (make data)) bytes (make a) :=
  .bind .alloc (.map make accepts)

/-- A frame whose payload is all written has for payload the bytes written last. -/
theorem payload_of_toFrame {packet : Packet} (encodes : packet.layouts.isSome)
    (notBattery : ¬ packet.IsBatteryLevel) {heap : Heap} {h h' : Host} {frame : Frame}
    (runs : packet.toFrame heap h = some (some frame, h')) :
    frame.dataType = frameDataTypeDataMdr ∧ frame.Holds ∧ packet.written = some frame.payload := by
  obtain ⟨made, h₁, written, runs', isWritten, -, spec⟩ := toFrame_spec heap h encodes
  rw [runs] at runs'
  obtain ⟨isMade, -⟩ := Prod.mk.inj (Option.some.inj runs')
  have makes := spec frame isMade.symm
  have length := makes.payloadLength
  have small := makes.small
  have body := makes.body
  rw [if_neg notBattery, Nat.add_zero] at length
  refine ⟨makes.dataType, ⟨by omega, by omega⟩, ?_⟩
  rw [isWritten, Frame.payload, length]
  exact congrArg some (List.prefix_iff_eq_take.mp makes.front)

theorem toFrame_written {packet : Packet} (encodes : packet.layouts.isSome)
    (notBattery : ¬ packet.IsBatteryLevel) {heap : Heap} (never : heap.NeverFails) (h : Host) :
    ∃ frame h', packet.toFrame heap h = some (some frame, h') ∧
      frame.dataType = frameDataTypeDataMdr ∧ packet.written = some frame.payload := by
  obtain ⟨made, h', -, runs, -, isMade, -⟩ := toFrame_spec heap h encodes
  obtain ⟨frame, rfl⟩ := Option.isSome_iff_exists.mp (isMade never)
  obtain ⟨isData, -, isWritten⟩ := payload_of_toFrame encodes notBattery runs
  exact ⟨frame, h', runs, isData, isWritten⟩

/-- The frame of a packet that is made in one piece: the type byte and the bytes written. -/
theorem toFrame_payload {packet : Packet} (notBattery : ¬ packet.IsBatteryLevel) {size : Nat}
    {bytes : List UInt8} (layouts : packet.layouts = some [⟨size, bytes⟩]) {heap : Heap}
    (never : heap.NeverFails) (h : Host) :
    ∃ frame h', packet.toFrame heap h = some (some frame, h') ∧
      frame.dataType = frameDataTypeDataMdr ∧
      frame.payload = ByteEnum.byte packet.type :: bytes := by
  obtain ⟨frame, h', runs, isData, isWritten⟩ :=
    toFrame_written (Option.isSome_of_eq_some layouts) notBattery never h
  rw [written, layouts] at isWritten
  exact ⟨frame, h', runs, isData, (Option.some.inj isWritten).symm⟩

theorem Agrees.roundTrips {packet : Packet} (agrees : packet.Agrees)
    (notBattery : ¬ packet.IsBatteryLevel) : packet.RoundTrips := by
  intro heap h never
  obtain ⟨size, bytes, layouts, accepts⟩ := agrees
  obtain ⟨frame, h', runs, isData, isPayload⟩ := toFrame_payload notBattery layouts never h
  refine ⟨frame, h', runs, ?_⟩
  intro heap' h₁ never'
  refine fromFrame_of_accepts accepts isData ⟨[], ?_⟩ never' h₁
  rw [isPayload, List.append_nil]

/-- A frame of a packet that comes back, with its payload. -/
theorem RoundTrips.frame {packet : Packet} (roundTrips : packet.RoundTrips)
    (encodes : packet.layouts.isSome) (notBattery : ¬ packet.IsBatteryLevel) :
    ∃ frame : Frame, frame.dataType = frameDataTypeDataMdr ∧ frame.Holds ∧
      packet.written = some frame.payload ∧ ∀ (heap : Heap) (h : Host), heap.NeverFails →
        ∃ h', fromFrame heap frame h = some (some packet, h') := by
  have never : Heap.NeverFails fun _ => some [] := fun _ => rfl
  let h : Host := { errno := 0, reads := [], writes := [], mallocs := 0, wire := [], got := [] }
  obtain ⟨frame, h', runs, decodes⟩ := roundTrips _ h never
  obtain ⟨isData, holds, isPayload⟩ := payload_of_toFrame encodes notBattery runs
  exact ⟨frame, isData, holds, isPayload, decodes⟩

/-- A packet that comes back is the one that its bytes are read as. -/
theorem RoundTrips.eq_of_accepts {packet read : Packet} (roundTrips : packet.RoundTrips)
    (encodes : packet.layouts.isSome) (notBattery : ¬ packet.IsBatteryLevel) {bytes : List UInt8}
    (isWritten : packet.written = some (ByteEnum.byte read.type :: bytes))
    (accepts : (parse read.type).Accepts bytes read) : packet = read := by
  have never : Heap.NeverFails fun _ => some [] := fun _ => rfl
  let h : Host := { errno := 0, reads := [], writes := [], mallocs := 0, wire := [], got := [] }
  obtain ⟨frame, isData, -, isPayload, decodes⟩ := roundTrips.frame encodes notBattery
  have front : ByteEnum.byte read.type :: bytes <+: frame.payload :=
    ⟨[], (List.append_nil _).trans (Option.some.inj (isWritten.symm.trans isPayload))⟩
  obtain ⟨h₁, asPacket⟩ := decodes _ h never
  obtain ⟨h₂, asRead⟩ := fromFrame_of_accepts accepts isData front never h
  rw [asPacket] at asRead
  exact Option.some.inj (Prod.mk.inj (Option.some.inj asRead)).1

/-- A packet whose bytes are refused does not come back. -/
theorem not_roundTrips_of_rejects {packet : Packet} (encodes : packet.layouts.isSome)
    (notBattery : ¬ packet.IsBatteryLevel) {bytes : List UInt8}
    (isWritten : packet.written = some (ByteEnum.byte packet.type :: bytes))
    (rejects : (parse packet.type).Rejects bytes) : ¬ packet.RoundTrips := by
  intro roundTrips
  have never : Heap.NeverFails fun _ => some [] := fun _ => rfl
  let h : Host := { errno := 0, reads := [], writes := [], mallocs := 0, wire := [], got := [] }
  obtain ⟨frame, -, holds, isPayload, decodes⟩ := roundTrips.frame encodes notBattery
  obtain ⟨h₁, asPacket⟩ := decodes _ h never
  obtain ⟨h₂, refused⟩ := fromFrame_of_rejects rejects holds
    (Option.some.inj (isPayload.symm.trans isWritten)) never h
  rw [asPacket] at refused
  cases refused

end Packet

end Libmdr
