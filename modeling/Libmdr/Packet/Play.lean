import Libmdr.Packet.Codec

/-!
# PLAY packets

The playback controller (`include/mdr/packet/play.h`, `src/packet/play.h`).
-/

namespace Libmdr
set_option autoImplicit false

/-- `mdr_packet_play_inquired_type_t`. -/
inductive PlayInquiredType
  | playbackController
  deriving DecidableEq, Repr

instance : ByteEnum PlayInquiredType where
  byte
    | .playbackController => 0x01
  values := [.playbackController]
  complete value := by cases value; decide
  nodup := by decide

/-- `mdr_packet_play_playback_detailed_data_type_t`. -/
inductive PlayPlaybackDetailedDataType
  | trackName | albumName | artistName | genreName | playerName | volume
  deriving DecidableEq, Repr

instance : ByteEnum PlayPlaybackDetailedDataType where
  byte
    | .trackName => 0x00
    | .albumName => 0x01
    | .artistName => 0x02
    | .genreName => 0x03
    | .playerName => 0x10
    | .volume => 0x20
  values := [.trackName, .albumName, .artistName, .genreName, .playerName, .volume]
  complete value := by cases value <;> decide
  nodup := by decide

/-- `mdr_packet_play_playback_name_status_t`. -/
inductive PlayPlaybackNameStatus
  | unsettled | nothing | settled
  deriving DecidableEq, Repr

instance : ByteEnum PlayPlaybackNameStatus where
  byte
    | .unsettled => 0x00
    | .nothing => 0x01
    | .settled => 0x02
  values := [.unsettled, .nothing, .settled]
  complete value := by cases value <;> decide
  nodup := by decide

/-- `mdr_packet_play_playback_string_t`. -/
structure PlayPlaybackString where
  status : PlayPlaybackNameStatus
  len : UInt8
  data : List UInt8
  deriving DecidableEq, Repr

/-- `mdr_packet_play_get_param_t`. -/
structure PlayGetParam where
  inquiredType : PlayInquiredType
  detailedDataType : PlayPlaybackDetailedDataType
  deriving DecidableEq, Repr

/-- The union of `mdr_packet_play_ret_param_t`, by the detailed data type. -/
inductive PlayValue
  | trackName (string : PlayPlaybackString)
  | albumName (string : PlayPlaybackString)
  | artistName (string : PlayPlaybackString)
  | genreName (string : PlayPlaybackString)
  | playerName (string : PlayPlaybackString)
  | volume (volume : UInt8)
  deriving DecidableEq, Repr

/-- `mdr_packet_play_ret_param_t`, also for SET and NTFY. -/
structure PlayRetParam where
  inquiredType : PlayInquiredType
  value : PlayValue
  deriving DecidableEq, Repr

def PlayRetParam.detailedDataType (param : PlayRetParam) : PlayPlaybackDetailedDataType :=
  match param.value with
  | .trackName _ => .trackName
  | .albumName _ => .albumName
  | .artistName _ => .artistName
  | .genreName _ => .genreName
  | .playerName _ => .playerName
  | .volume _ => .volume

/-! ## Parsing -/

def parsePlayGetParam : Parse PlayGetParam := do
  let inquiredType ← Parse.enum
  let detailedDataType ← Parse.enum
  return { inquiredType, detailedDataType }

/-- The string of a name; a length over 128 is stored as 128. -/
def parsePlayPlaybackString : Parse PlayPlaybackString := do
  let status ← Parse.enum
  let announced ← Parse.byte
  let len := if announced > 128 then 128 else announced
  let data ← Parse.bytes len
  return { status, len, data }

/-- The RET, SET and NTFY branch of `mdr_packet_play_from_frame`. -/
def parsePlayRetParam : Parse PlayRetParam := do
  let inquiredType ← Parse.enum
  match ← (Parse.enum : Parse PlayPlaybackDetailedDataType) with
  | .trackName => return { inquiredType, value := .trackName (← parsePlayPlaybackString) }
  | .albumName => return { inquiredType, value := .albumName (← parsePlayPlaybackString) }
  | .artistName => return { inquiredType, value := .artistName (← parsePlayPlaybackString) }
  | .genreName => return { inquiredType, value := .genreName (← parsePlayPlaybackString) }
  | .playerName => return { inquiredType, value := .playerName (← parsePlayPlaybackString) }
  | .volume => return { inquiredType, value := .volume (← Parse.byte) }

/-! ## Writing -/

def writePlayGetParam (packet : PlayGetParam) : Option (List Layout) :=
  some [⟨2, [ByteEnum.byte packet.inquiredType, ByteEnum.byte packet.detailedDataType]⟩]

/-- The RET, SET and NTFY branch of `mdr_packet_play_to_frame`. -/
def writePlayRetParam (packet : PlayRetParam) : Option (List Layout) :=
  let inquiredType := ByteEnum.byte packet.inquiredType
  let detailedDataType := ByteEnum.byte packet.detailedDataType
  match packet.value with
  | .trackName string | .albumName string | .artistName string | .genreName string
  | .playerName string => do
    let data ← counted string.len string.data
    return [⟨4 + string.len.toNat,
      [inquiredType, detailedDataType, ByteEnum.byte string.status, string.len] ++ data⟩]
  | .volume volume => some [⟨3, [inquiredType, detailedDataType, volume]⟩]

end Libmdr
