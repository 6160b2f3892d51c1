import Libmdr.Packet.Roundtrip

/-!
# PLAY packets there and back

The decoder of a name cuts the announced length to 128 before it copies the string. A
packet whose name is that short comes back; and what is decoded is that short, so that
decoding once more changes nothing.
-/

namespace Libmdr
set_option autoImplicit false

open Parse

theorem parsePlayGetParam_accepts (packet : PlayGetParam) :
    Accepts parsePlayGetParam
      [ByteEnum.byte packet.inquiredType, ByteEnum.byte packet.detailedDataType] packet :=
  .bind (.enum packet.inquiredType) (.bind (.enum packet.detailedDataType) (.pure _))

/-- A name that is not cut. -/
theorem parsePlayPlaybackString_accepts {string : PlayPlaybackString}
    (counts : string.CountsMatch) (fits : string.len.toNat ≤ 128) :
    Accepts parsePlayPlaybackString
      (ByteEnum.byte string.status :: string.len :: string.data) string := by
  refine .bind (.enum string.status) (.bind (.byte string.len) ?_)
  dsimp only
  rw [cut_eq_self fits]
  exact .map _ (.bytes counts)

/-- One of the five names: the writer puts its type in front of the string, and the reader tells
from the type how to store it. -/
theorem parsePlayRetParam_accepts_name {inquiredType : PlayInquiredType}
    {type : PlayPlaybackDetailedDataType} {name : PlayPlaybackString → PlayValue}
    {string : PlayPlaybackString} (counts : string.CountsMatch) (fits : string.len.toNat ≤ 128)
    (writes : writePlayRetParam ⟨inquiredType, name string⟩ =
      (counted string.len string.data).bind fun data => some [⟨4 + string.len.toNat,
        [ByteEnum.byte inquiredType, ByteEnum.byte type, ByteEnum.byte string.status, string.len] ++
          data⟩])
    (reads : ∀ bytes,
      Accepts (return { inquiredType, value := name (← parsePlayPlaybackString) }) bytes
        { inquiredType, value := name string : PlayRetParam } →
      Accepts parsePlayRetParam (ByteEnum.byte inquiredType :: ByteEnum.byte type :: bytes)
        ⟨inquiredType, name string⟩) :
    ∃ size bytes, writePlayRetParam ⟨inquiredType, name string⟩ = some [⟨size, bytes⟩] ∧
      Accepts parsePlayRetParam bytes ⟨inquiredType, name string⟩ :=
  ⟨_, _, writes.trans (counted_eq_some counts),
    reads _ (.map _ (parsePlayPlaybackString_accepts counts fits))⟩

theorem parsePlayRetParam_accepts {packet : PlayRetParam} (counts : packet.value.CountsMatch)
    (fits : packet.value.StringsFit) : ∃ size bytes,
      writePlayRetParam packet = some [⟨size, bytes⟩] ∧
        Accepts parsePlayRetParam bytes packet := by
  obtain ⟨inquiredType, value⟩ := packet
  cases value with
  | volume volume =>
    exact ⟨_, _, rfl, .bind (.enum inquiredType)
      (.bind (.enum PlayPlaybackDetailedDataType.volume) (.bind (.byte volume) (.pure _)))⟩
  | trackName string =>
    exact parsePlayRetParam_accepts_name counts fits rfl fun _ value =>
      .bind (.enum inquiredType) (.bind (.enum PlayPlaybackDetailedDataType.trackName) value)
  | albumName string =>
    exact parsePlayRetParam_accepts_name counts fits rfl fun _ value =>
      .bind (.enum inquiredType) (.bind (.enum PlayPlaybackDetailedDataType.albumName) value)
  | artistName string =>
    exact parsePlayRetParam_accepts_name counts fits rfl fun _ value =>
      .bind (.enum inquiredType) (.bind (.enum PlayPlaybackDetailedDataType.artistName) value)
  | genreName string =>
    exact parsePlayRetParam_accepts_name counts fits rfl fun _ value =>
      .bind (.enum inquiredType) (.bind (.enum PlayPlaybackDetailedDataType.genreName) value)
  | playerName string =>
    exact parsePlayRetParam_accepts_name counts fits rfl fun _ value =>
      .bind (.enum inquiredType) (.bind (.enum PlayPlaybackDetailedDataType.playerName) value)

/-- The types of the PLAY family. -/
def PacketType.IsPlay : PacketType → Prop
  | .playGetParam | .playRetParam | .playSetParam | .playNtfyParam => True
  | _ => False

namespace Packet

theorem play_agrees {packet : Packet} (isPlay : packet.type.IsPlay)
    (counts : packet.CountsMatch) (fits : packet.StringsFit) : packet.Agrees := by
  cases packet with
  | playGetParam data => exact ⟨_, _, rfl, accepts_member _ (parsePlayGetParam_accepts data)⟩
  | playRetParam data | playSetParam data | playNtfyParam data =>
    obtain ⟨size, bytes, written, accepts⟩ := parsePlayRetParam_accepts counts fits
    exact ⟨size, bytes, written, accepts_member _ accepts⟩
  | _ => exact False.elim isPlay

theorem play_roundTrips {packet : Packet} (isPlay : packet.type.IsPlay)
    (counts : packet.CountsMatch) (fits : packet.StringsFit) : packet.RoundTrips :=
  (play_agrees isPlay counts fits).roundTrips (not_isBatteryLevel_of isPlay id id)

/-- What is decoded as a PLAY packet has counts that match and a name that is cut. -/
theorem parse_play_reads (type : PacketType) :
    Reads (parse type) (2 ^ 26) fun _ packet => packet.type = type ∧
      (type.IsPlay → packet.CountsMatch ∧ packet.StringsFit) := by
  refine .bind (Nat.zero_le _) .alloc ?_
  rintro _ _ rfl
  cases type with
  | playGetParam =>
    exact .map (by decide) parsePlayGetParam_reads
      fun _ _ _ => ⟨rfl, fun _ => ⟨trivial, trivial⟩⟩
  | playRetParam | playSetParam | playNtfyParam =>
    exact .map (by decide) parsePlayRetParam_reads fun _ _ holds => ⟨rfl, fun _ => holds⟩
  | _ =>
    refine (parseData_reads _).weaken (by decide) ?_
    intro taken packet decodes
    exact ⟨decodes.isType, False.elim⟩

/-- **PLAY packets**: every one whose name has at most 128 bytes comes back, and so does
every one that was decoded, from a name of any length. -/
theorem play_codec :
    (∀ packet : Packet, packet.type.IsPlay → packet.WellFormed → packet.StringsFit →
      packet.RoundTrips) ∧
    (∀ (frame : Frame) (heap : Heap) (h h' : Host) (packet : Packet),
      frame.payloadLength.toNat ≤ frame.body.length →
      fromFrame heap frame h = some (some packet, h') → packet.type.IsPlay →
      packet.RoundTrips) := by
  constructor
  · intro packet isPlay wellFormed fits
    exact play_roundTrips isPlay wellFormed.counts fits
  · intro frame heap h h' packet holds accepted isPlay
    obtain ⟨type, rest, isPayload, parsed⟩ := fromFrame_parsed holds accepted
    obtain ⟨taken, -, rfl, read⟩ := parsed _ (parse_play_reads type)
    obtain ⟨counts, fits⟩ := read isPlay
    exact play_roundTrips isPlay counts fits

/-- `play_codec` on a volume, and on a frame that announces 200 bytes of a track's name. -/
theorem play_codec_track_name :
    RoundTrips (.playSetParam ⟨.playbackController, .volume 15⟩) ∧
      RoundTrips (.playRetParam ⟨.playbackController,
        .trackName ⟨.settled, 128, List.replicate 128 0x41⟩⟩) := by
  constructor
  · exact play_codec.1 _ trivial ⟨trivial, trivial⟩ trivial
  · have accepted : fromFrame (fun _ => some [])
        ⟨0x0c, 0, 205, 0xa7 :: 0x01 :: 0x00 :: 0x02 :: 200 :: List.replicate 201 0x41⟩
        ⟨0, [], [], 0, [], []⟩ = some (some (.playRetParam ⟨.playbackController,
          .trackName ⟨.settled, 128, List.replicate 128 0x41⟩⟩), ⟨0, [], [], 2, [], []⟩) := by
      decide +kernel
    exact play_codec.2 _ _ _ _ _ (by decide +kernel) accepted trivial

end Packet

end Libmdr
