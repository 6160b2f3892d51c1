import Libmdr.Packet.Roundtrip

/-!
# CONNECT packets there and back

Model name and firmware version share a member of the union in the encoder and in the
decoder. The decoder takes at most 128 bytes of either; up to there, encoder and decoder
agree for every CONNECT packet.
-/

namespace Libmdr
set_option autoImplicit false

open Parse

theorem parseConnectGetProtocolInfo_accepts {packet : ConnectGetProtocolInfo}
    (isZero : packet.fixedValue = 0) :
    Accepts parseConnectGetProtocolInfo [packet.fixedValue] packet := by
  obtain ⟨fixedValue⟩ := packet
  obtain rfl : fixedValue = 0 := isZero
  exact .bind .fixedValue (.pure _)

theorem parseConnectRetProtocolInfo_accepts {packet : ConnectRetProtocolInfo}
    (isZero : packet.fixedValue = 0) :
    Accepts parseConnectRetProtocolInfo
      [packet.fixedValue, packet.versionHigh, packet.versionLow] packet := by
  obtain ⟨fixedValue, versionHigh, versionLow⟩ := packet
  obtain rfl : fixedValue = 0 := isZero
  exact .bind .fixedValue (.bind (.byte versionHigh) (.bind (.byte versionLow) (.pure _)))

theorem parseConnectGetDeviceInfo_accepts (packet : ConnectGetDeviceInfo) :
    Accepts parseConnectGetDeviceInfo [ByteEnum.byte packet.inquiredType] packet :=
  .bind (.enum packet.inquiredType) (.pure _)

/-- A string that is not cut. -/
theorem parseDeviceInfoString_accepts {string : DeviceInfoString} (counts : string.CountsMatch)
    (fits : string.len.toNat ≤ 128) :
    Accepts parseDeviceInfoString (string.len :: string.string) string := by
  refine .bind (.byte string.len) (.bind .alloc (.map _ ?_))
  rw [cut_eq_self fits]
  exact .bytes counts

theorem parseDeviceInfoSeriesAndColor_accepts (info : DeviceInfoSeriesAndColor) :
    Accepts parseDeviceInfoSeriesAndColor
      [ByteEnum.byte info.series, ByteEnum.byte info.color] info :=
  .bind (.enum info.series) (.bind (.enum info.color) (.pure _))

theorem parseDeviceInfoInstructionGuide_accepts {guide : DeviceInfoInstructionGuide}
    (counts : guide.CountsMatch) :
    Accepts parseDeviceInfoInstructionGuide
      (guide.numGuidanceCategories :: guide.guidanceCategories.map ByteEnum.byte) guide :=
  .bind (.byte guide.numGuidanceCategories) (.map _ (.forEach_enum counts))

/-- Device information comes back when its strings fit. -/
theorem parseConnectRetDeviceInfo_accepts {packet : ConnectRetDeviceInfo}
    (counts : packet.CountsMatch) (fits : (Packet.connectRetDeviceInfo packet).StringsFit) :
    ∃ size bytes, writeConnectRetDeviceInfo packet = some [⟨size, bytes⟩] ∧
      Accepts parseConnectRetDeviceInfo bytes packet := by
  cases packet with
  | modelName name =>
    have accepts : Accepts parseConnectRetDeviceInfo _ (.modelName name) :=
      .bind (.enum DeviceInfoInquiredType.modelName)
        (.map _ (parseDeviceInfoString_accepts counts fits))
    exact ⟨_, _, counted_eq_some counts, accepts⟩
  | fwVersion version =>
    have accepts : Accepts parseConnectRetDeviceInfo _ (.fwVersion version) :=
      .bind (.enum DeviceInfoInquiredType.fwVersion)
        (.map _ (parseDeviceInfoString_accepts counts fits))
    exact ⟨_, _, counted_eq_some counts, accepts⟩
  | seriesAndColor info =>
    exact ⟨_, _, rfl, .bind (.enum DeviceInfoInquiredType.seriesAndColor)
      (.map _ (parseDeviceInfoSeriesAndColor_accepts info))⟩
  | instructionGuide guide =>
    have accepts : Accepts parseConnectRetDeviceInfo _ (.instructionGuide guide) :=
      .bind (.enum DeviceInfoInquiredType.instructionGuide)
        (.map _ (parseDeviceInfoInstructionGuide_accepts counts))
    exact ⟨_, _, counted_eq_some counts, accepts⟩

theorem parseConnectGetSupportFunction_accepts {packet : ConnectGetSupportFunction}
    (isZero : packet.fixedValue = 0) :
    Accepts parseConnectGetSupportFunction [packet.fixedValue] packet := by
  obtain ⟨fixedValue⟩ := packet
  obtain rfl : fixedValue = 0 := isZero
  exact .bind .fixedValue (.pure _)

theorem parseConnectRetSupportFunction_accepts {packet : ConnectRetSupportFunction}
    (isZero : packet.fixedValue = 0) (counts : packet.CountsMatch) : ∃ size bytes,
      writeConnectRetSupportFunction packet = some [⟨size, bytes⟩] ∧
        Accepts parseConnectRetSupportFunction bytes packet := by
  obtain ⟨fixedValue, numFunctionTypes, functionTypes⟩ := packet
  obtain rfl : fixedValue = 0 := isZero
  have accepts : Accepts parseConnectRetSupportFunction _ ⟨0, numFunctionTypes, functionTypes⟩ :=
    .bind .fixedValue (.bind (.byte numFunctionTypes) (.map _ (.forEach_enum counts)))
  exact ⟨_, _, counted_eq_some counts, accepts⟩

/-- The types of the CONNECT family. -/
def PacketType.IsConnect : PacketType → Prop
  | .connectGetProtocolInfo | .connectRetProtocolInfo | .connectGetDeviceInfo
  | .connectRetDeviceInfo | .connectGetSupportFunction | .connectRetSupportFunction => True
  | _ => False

namespace Packet

theorem connect_agrees {packet : Packet} (isConnect : packet.type.IsConnect)
    (wellFormed : packet.WellFormed) (fits : packet.StringsFit) : packet.Agrees := by
  obtain ⟨counts, isZero⟩ := wellFormed
  cases packet with
  | connectGetProtocolInfo data =>
    exact ⟨_, _, rfl, accepts_member _ (parseConnectGetProtocolInfo_accepts isZero)⟩
  | connectRetProtocolInfo data =>
    exact ⟨_, _, rfl, accepts_member _ (parseConnectRetProtocolInfo_accepts isZero)⟩
  | connectGetDeviceInfo data =>
    exact ⟨_, _, rfl, accepts_member _ (parseConnectGetDeviceInfo_accepts data)⟩
  | connectRetDeviceInfo data =>
    obtain ⟨size, bytes, written, accepts⟩ := parseConnectRetDeviceInfo_accepts counts fits
    exact ⟨size, bytes, written, accepts_member _ accepts⟩
  | connectGetSupportFunction data =>
    exact ⟨_, _, rfl, accepts_member _ (parseConnectGetSupportFunction_accepts isZero)⟩
  | connectRetSupportFunction data =>
    obtain ⟨size, bytes, written, accepts⟩ := parseConnectRetSupportFunction_accepts isZero counts
    exact ⟨size, bytes, written, accepts_member _ accepts⟩
  | _ => exact False.elim isConnect

/-- Every CONNECT packet whose strings are not cut comes back. -/
theorem connect_roundTrips {packet : Packet} (isConnect : packet.type.IsConnect)
    (wellFormed : packet.WellFormed) (fits : packet.StringsFit) : packet.RoundTrips :=
  (connect_agrees isConnect wellFormed fits).roundTrips (not_isBatteryLevel_of isConnect id id)

/-- `connect_roundTrips` on a model name of 128 bytes. -/
theorem connect_roundTrips_model_name :
    RoundTrips (.connectRetDeviceInfo (.modelName ⟨128, List.replicate 128 0x41⟩)) := by
  refine connect_roundTrips trivial ⟨?_, trivial⟩ ?_
  · exact List.length_replicate
  · exact Nat.le_refl 128

end Packet

end Libmdr
