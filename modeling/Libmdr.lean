import Libmdr.FrameConn.Roundtrip
import Libmdr.FrameConn.Chunking
import Libmdr.FrameConn.Scanning
import Libmdr.Packet.PrefixDetermined
import Libmdr.Packet.ConnectRoundtrip
import Libmdr.Packet.CommonRoundtrip
import Libmdr.Packet.EqebbRoundtrip
import Libmdr.Packet.NcasmRoundtrip
import Libmdr.Packet.PlayRoundtrip
import Libmdr.Packet.SystemRoundtrip
import Libmdr.Packet.Canonical
import Libmdr.Packet.Lifetime
import Libmdr.PacketConn.Sending
import Libmdr.PacketConn.Alternation
import Libmdr.PacketConn.Network
import Libmdr.PacketConn.Stranding
import Libmdr.PacketConn.Polling
import Libmdr.PacketConn.Linked
import Libmdr.PacketConn.FirstSend
import Libmdr.PacketConn.Turns
import Libmdr.PacketConn.Closing
import Libmdr.PacketConn.Liveness
import Libmdr.PacketConn.Conversation
import Libmdr.Device.Settings
import Libmdr.Device.Completion
import Libmdr.Device.Sharing
import Libmdr.Device.Liveness
import Libmdr.FrameConn.Memory
import Libmdr.FrameConn.Bounds
import Libmdr.FrameConn.EscapeBlock
import Libmdr.Device.Gates
import Libmdr.Device.Inquired
import Libmdr.Device.Delivery
import Libmdr.Device.Notices
