import Libmdr.Packet.Roundtrip

/-!
# COMMON packets there and back

A battery level is decoded by its inquired type, which the encoder leaves out: the levels
stand one byte too early, and behind them the frame keeps what its memory held. No battery
level comes back. The other COMMON packets agree.
-/

namespace Libmdr
set_option autoImplicit false

open Parse

theorem parseCommonGetBatteryLevel_accepts (packet : CommonGetBatteryLevel) :
    Accepts parseCommonGetBatteryLevel [ByteEnum.byte packet.inquiredType] packet :=
  .bind (.enum packet.inquiredType) (.pure _)

theorem parseCommonSetPowerOff_accepts (packet : CommonSetPowerOff) :
    Accepts parseCommonSetPowerOff
      [ByteEnum.byte packet.inquiredType, ByteEnum.byte packet.settingValue] packet :=
  .bind (.enum packet.inquiredType) (.bind (.enum packet.settingValue) (.pure _))

theorem parseCommonGetConnectionStatus_accepts (packet : CommonGetConnectionStatus) :
    Accepts parseCommonGetConnectionStatus [ByteEnum.byte packet.inquiredType] packet :=
  .bind (.enum packet.inquiredType) (.pure _)

theorem parseCommonRetConnectionStatus_accepts (packet : CommonRetConnectionStatus) :
    ∃ size bytes, writeCommonRetConnectionStatus packet = some [⟨size, bytes⟩] ∧
      Accepts parseCommonRetConnectionStatus bytes packet := by
  cases packet with
  | leftRight status =>
    exact ⟨_, _, rfl, .bind (.enum ConnectionStatusInquiredType.leftRight)
      (.bind (.enum status.leftStatus) (.bind (.enum status.rightStatus) (.pure _)))⟩

/-- The types of the COMMON family. -/
def PacketType.IsCommon : PacketType → Prop
  | .commonGetBatteryLevel | .commonRetBatteryLevel | .commonNtfyBatteryLevel
  | .commonSetPowerOff | .commonGetConnectionStatus | .commonRetConnectionStatus
  | .commonNtfyConnectionStatus => True
  | _ => False

/-- A list moved up by one element is the same only if all its elements are. -/
theorem eq_of_cons_eq_append_singleton {α : Type} {a b : α} {l : List α}
    (moved : a :: l = l ++ [b]) : a = b := by
  induction l generalizing a with
  | nil => exact (List.cons.inj moved).1
  | cons c l ih =>
    obtain ⟨isHead, isTail⟩ := List.cons.inj moved
    exact isHead.trans (ih isTail)

namespace Packet

theorem common_agrees {packet : Packet} (isCommon : packet.type.IsCommon)
    (other : ¬ packet.IsBatteryLevel) : packet.Agrees := by
  cases packet with
  | commonGetBatteryLevel data =>
    exact ⟨_, _, rfl, accepts_member _ (parseCommonGetBatteryLevel_accepts data)⟩
  | commonRetBatteryLevel data => exact absurd (.inl rfl) other
  | commonNtfyBatteryLevel data => exact absurd (.inr rfl) other
  | commonSetPowerOff data =>
    exact ⟨_, _, rfl, accepts_member _ (parseCommonSetPowerOff_accepts data)⟩
  | commonGetConnectionStatus data =>
    exact ⟨_, _, rfl, accepts_member _ (parseCommonGetConnectionStatus_accepts data)⟩
  | commonRetConnectionStatus data | commonNtfyConnectionStatus data =>
    obtain ⟨size, bytes, written, accepts⟩ := parseCommonRetConnectionStatus_accepts data
    exact ⟨size, bytes, written, accepts_member _ accepts⟩
  | _ => exact False.elim isCommon

/-- The level that a battery level packet holds. -/
def batteryLevel : Packet → Option CommonRetBatteryLevel
  | .commonRetBatteryLevel data | .commonNtfyBatteryLevel data => some data
  | _ => none

theorem parse_batteryLevel_reads {type : PacketType}
    (isLevel : type = .commonRetBatteryLevel ∨ type = .commonNtfyBatteryLevel) :
    Reads (parse type) (2 ^ 26) fun taken packet => ∀ data, packet.batteryLevel = some data →
      taken = ByteEnum.byte data.inquiredType :: data.encoded := by
  refine .bind (Nat.zero_le _) .alloc ?_
  rintro _ _ rfl
  rcases isLevel with rfl | rfl
  · refine .map (by decide) parseCommonRetBatteryLevel_reads ?_
    rintro _ data rfl _ ⟨⟩
    rfl
  · refine .map (by decide) parseCommonRetBatteryLevel_reads ?_
    rintro _ data rfl _ ⟨⟩
    rfl

/-- In memory that holds 255 everywhere the frame of a battery level ends with that byte. -/
theorem toFrame_batteryLevel {packet : Packet} {data : CommonRetBatteryLevel}
    (isLevel : packet.batteryLevel = some data) (h : Host) :
    ∃ frame h', packet.toFrame (fun _ => some (List.replicate 16 255)) h
        = some (some frame, h') ∧
      frame.payloadLength.toNat ≤ frame.body.length ∧
      frame.payload = ByteEnum.byte packet.type :: (data.encoded ++ [255]) := by
  cases packet with
  | commonRetBatteryLevel level | commonNtfyBatteryLevel level =>
    cases isLevel
    cases data <;> exact ⟨_, _, rfl, Nat.le_of_ble_eq_true rfl, rfl⟩
  | _ => cases isLevel

theorem exists_batteryLevel {packet : Packet} (isBattery : packet.IsBatteryLevel) :
    ∃ data, packet.batteryLevel = some data := by
  cases packet with
  | commonRetBatteryLevel data | commonNtfyBatteryLevel data => exact ⟨data, rfl⟩
  | _ => rcases isBattery with isRet | isNtfy <;> contradiction

/-- A battery level would have to be the same moved up by one byte, with 255 behind it. -/
theorem not_roundTrips_batteryLevel {packet : Packet} (isBattery : packet.IsBatteryLevel) :
    ¬ packet.RoundTrips := by
  intro roundTrips
  have never : Heap.NeverFails fun _ => some (List.replicate 16 255) := fun _ => rfl
  let h : Host := { errno := 0, reads := [], writes := [], mallocs := 0, wire := [], got := [] }
  obtain ⟨data, isLevel⟩ := exists_batteryLevel isBattery
  obtain ⟨frame, h', runs, holds, isPayload⟩ := toFrame_batteryLevel isLevel h
  obtain ⟨again, h₁, runs', decodes⟩ := roundTrips _ h never
  rw [runs] at runs'
  obtain ⟨isFrame, -⟩ := Prod.mk.inj (Option.some.inj runs')
  obtain rfl := Option.some.inj isFrame
  obtain ⟨h₂, accepted⟩ := decodes _ h never
  obtain ⟨type, rest, isRead, parsed⟩ := fromFrame_parsed holds accepted
  obtain ⟨isByte, isRest⟩ := List.cons.inj (isPayload.symm.trans isRead)
  obtain rfl := ByteEnum.byte_injective isByte
  obtain ⟨taken, front, read⟩ := parsed _ (parse_batteryLevel_reads isBattery)
  obtain rfl := read data isLevel
  rw [← isRest] at front
  have moved : ByteEnum.byte data.inquiredType :: data.encoded = data.encoded ++ [255] := by
    apply front.eq_of_length
    rw [List.length_cons, List.length_append, List.length_singleton]
  have isJunk := eq_of_cons_eq_append_singleton moved
  cases data <;> cases isJunk

/-- Which COMMON packets come back: all but the battery levels. -/
theorem common_roundTrips_iff {packet : Packet} (isCommon : packet.type.IsCommon) :
    packet.RoundTrips ↔ ¬ packet.IsBatteryLevel := by
  constructor
  · intro roundTrips isBattery
    exact not_roundTrips_batteryLevel isBattery roundTrips
  · intro other
    exact (common_agrees isCommon other).roundTrips other

/-- A battery at 50 that does not charge: its answer is refused, for 50 is no inquired type. -/
theorem not_roundTrips_battery_at_50 :
    WellFormed (.commonRetBatteryLevel (.battery ⟨50, 0⟩)) ∧
      ¬ RoundTrips (.commonRetBatteryLevel (.battery ⟨50, 0⟩)) ∧
      fromFrame (fun _ => some []) ⟨0x0c, 0, 4, [0x11, 50, 0, 0, 0]⟩ ⟨0, [], [], 0, [], []⟩
        = some (none, ⟨mdrEInvalidFrame, [], [], 1, [], []⟩) :=
  ⟨⟨trivial, trivial⟩, not_roundTrips_batteryLevel (.inl rfl), by decide +kernel⟩

/-- `common_roundTrips_iff` on the connection status and the battery levels of two sides. -/
theorem common_roundTrips_iff_left_right :
    (RoundTrips (.commonNtfyConnectionStatus (.leftRight ⟨.connected, .notConnected⟩)) ↔
      ¬ IsBatteryLevel (.commonNtfyConnectionStatus (.leftRight ⟨.connected, .notConnected⟩))) ∧
      (RoundTrips (.commonRetBatteryLevel (.leftRightBattery ⟨⟨50, 0⟩, ⟨60, 1⟩⟩)) ↔
        ¬ IsBatteryLevel (.commonRetBatteryLevel (.leftRightBattery ⟨⟨50, 0⟩, ⟨60, 1⟩⟩))) :=
  ⟨common_roundTrips_iff trivial, common_roundTrips_iff trivial⟩

end Packet

end Libmdr
