import Libmdr.Packet.CommonRoundtrip
import Libmdr.Packet.ConnectRoundtrip
import Libmdr.Packet.EqebbRoundtrip
import Libmdr.Packet.NcasmRoundtrip
import Libmdr.Packet.PlayRoundtrip
import Libmdr.Packet.SystemRoundtrip

/-!
# Which packets come back

The six families taken together: a well-formed packet comes back from `mdr_packet_from_frame`
exactly when it has no string of more than 128 bytes, is no battery level and no capability of the
smart talking mode, and has no ambient sound amount that differs from the byte of the ASM id.
-/

namespace Libmdr
set_option autoImplicit false

open Parse

namespace Packet

/-- Encoder and decoder agree on the packet. -/
structure Lossless (packet : Packet) : Prop where
  fits : packet.StringsFit
  notBattery : ¬ packet.IsBatteryLevel
  notSmartTalking : ¬ packet.IsSmartTalkingCapability
  keepsAmount : ¬ packet.LosesAmount

/-- The six families are all there is. -/
theorem family (type : PacketType) :
    type.IsConnect ∨ type.IsCommon ∨ type.IsEqebb ∨ type.IsNcasm ∨ type.IsPlay ∨ type.IsSystem := by
  cases type <;> simp [PacketType.IsConnect, PacketType.IsCommon, PacketType.IsEqebb,
    PacketType.IsNcasm, PacketType.IsPlay, PacketType.IsSystem]

theorem Lossless.agrees {packet : Packet} (lossless : packet.Lossless)
    (wellFormed : packet.WellFormed) : packet.Agrees := by
  rcases family packet.type with connect | common | eqebb | ncasm | play | system
  · exact connect_agrees connect wellFormed lossless.fits
  · exact common_agrees common lossless.notBattery
  · exact eqebb_agrees eqebb wellFormed.counts
  · obtain ⟨size, bytes, layouts, accepts⟩ := ncasm_accepts ncasm
    rw [(ncasmAsWritten_eq_iff packet).mpr lossless.keepsAmount] at accepts
    exact ⟨size, bytes, layouts, accepts⟩
  · exact play_agrees play wellFormed.counts lossless.fits
  · exact system_agrees system wellFormed.counts lossless.notSmartTalking

end Packet

/-- A string whose length is true was not cut. -/
theorem parseConnectRetDeviceInfo_fits :
    Reads parseConnectRetDeviceInfo 257 fun _ info =>
      info.CountsMatch → (Packet.connectRetDeviceInfo info).StringsFit := by
  have fits {string : DeviceInfoString} (length : string.string.length = min 128 string.len.toNat)
      (counts : string.CountsMatch) : string.len.toNat ≤ 128 := by
    rw [DeviceInfoString.CountsMatch] at counts
    omega
  refine .one .enum ?_
  rintro inquired _ rfl
  cases inquired with
  | modelName | fwVersion =>
    refine .map (by omega) parseDeviceInfoString_reads ?_
    rintro _ string ⟨-, length⟩
    exact fits length
  | seriesAndColor =>
    exact .map (by omega) parseDeviceInfoSeriesAndColor_reads fun _ _ _ _ => trivial
  | instructionGuide =>
    exact .map (by omega) parseDeviceInfoInstructionGuide_reads fun _ _ _ _ => trivial

namespace Packet

/-- A packet that is decoded with true counts has no string of more than 128 bytes. -/
theorem parse_fits (type : PacketType) :
    Reads (parse type) (2 ^ 26) fun _ packet => packet.CountsMatch → packet.StringsFit := by
  cases type with
  | connectRetDeviceInfo =>
    refine .bind (Nat.zero_le _) .alloc ?_
    rintro _ _ rfl
    exact .map (by decide) parseConnectRetDeviceInfo_fits fun _ _ fits => fits
  | playRetParam | playSetParam | playNtfyParam =>
    exact (parse_play_reads _).weaken (by decide) fun _ _ read _ => (read.2 trivial).2
  | _ =>
    refine (parse_reads _).weaken (by decide) ?_
    intro taken packet decodes _
    have isType := decodes.isType
    cases packet <;> first | exact trivial | cases isType

/-- A packet that comes back has no string that is cut. -/
theorem RoundTrips.stringsFit {packet : Packet} (roundTrips : packet.RoundTrips)
    (wellFormed : packet.WellFormed) : packet.StringsFit := by
  have never : Heap.NeverFails fun _ => some [] := fun _ => rfl
  have notBattery : ¬ packet.IsBatteryLevel := fun isBattery =>
    not_roundTrips_batteryLevel isBattery roundTrips
  obtain ⟨frame, -, holds, -, decodes⟩ :=
    roundTrips.frame (layouts_isSome wellFormed.counts) notBattery
  obtain ⟨h', accepted⟩ := decodes _ ⟨0, [], [], 0, [], []⟩ never
  obtain ⟨type, rest, -, parsed⟩ := fromFrame_parsed holds.body accepted
  obtain ⟨-, -, fits⟩ := parsed _ (parse_fits type)
  exact fits wellFormed.counts

theorem RoundTrips.keepsAmount {packet : Packet} (roundTrips : packet.RoundTrips) :
    ¬ packet.LosesAmount := by
  intro loses
  have ncasm : packet.type.IsNcasm := by
    cases packet with
    | ncasmGetParam | ncasmRetParam | ncasmSetParam | ncasmNtfyParam => trivial
    | _ => exact loses
  obtain ⟨size, bytes, layouts, accepts⟩ := ncasm_accepts ncasm
  have isWritten : packet.written = some (ByteEnum.byte packet.ncasmAsWritten.type :: bytes) := by
    rw [written, layouts, ncasmAsWritten_type]
    rfl
  rw [← ncasmAsWritten_type] at accepts
  have same := roundTrips.eq_of_accepts (Option.isSome_of_eq_some layouts)
    (not_isBatteryLevel_of_isNcasm ncasm) isWritten accepts
  exact (ncasmAsWritten_eq_iff packet).mp same.symm loses

theorem RoundTrips.notSmartTalking {packet : Packet} (roundTrips : packet.RoundTrips) :
    ¬ packet.IsSmartTalkingCapability := by
  intro isSmartTalking
  cases packet with
  | systemRetCapability data =>
    cases data with
    | smartTalkingMode capability => exact not_roundTrips_smart_talking capability roundTrips
    | _ => exact isSmartTalking
  | _ => exact isSmartTalking

/-- **The whole codec**: where memory is granted, of the well-formed packets of all six families
those come back that encoder and decoder agree on, and no others. -/
theorem roundTrips_iff {packet : Packet} (wellFormed : packet.WellFormed) :
    packet.RoundTrips ↔ packet.Lossless := by
  constructor
  · intro roundTrips
    exact ⟨roundTrips.stringsFit wellFormed,
      fun isBattery => not_roundTrips_batteryLevel isBattery roundTrips,
      roundTrips.notSmartTalking, roundTrips.keepsAmount⟩
  · intro lossless
    exact (lossless.agrees wellFormed).roundTrips lossless.notBattery

/-- `roundTrips_iff` on a track name of 129 bytes, the shortest that is cut. -/
theorem roundTrips_iff_track_name :
    RoundTrips (.playSetParam ⟨.playbackController,
        .trackName ⟨.settled, 129, List.replicate 129 0x41⟩⟩) ↔
      Lossless (.playSetParam ⟨.playbackController,
        .trackName ⟨.settled, 129, List.replicate 129 0x41⟩⟩) :=
  roundTrips_iff ⟨List.length_replicate, trivial⟩

end Packet

end Libmdr
