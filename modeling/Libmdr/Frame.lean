import Libmdr.Host

/-!
# MDR frames

`mdr_frame_t` (`include/mdr/frame.h`, `src/frame.c`): an 8-bit data type, a
sequence id, the payload length in host order, and from the `payload` member on
the payload bytes followed by the checksum byte.
-/

namespace Libmdr
set_option autoImplicit false

/-- `MDR_FRAME_DATA_TYPE_ACK`. -/
def frameDataTypeAck : UInt8 := 0x01

/-- `MDR_FRAME_DATA_TYPE_DATA_MDR`. -/
def frameDataTypeDataMdr : UInt8 := 0x0c

/-- `MDR_FRAME_EMPTY_LEN`: the length of a frame with an empty payload. -/
def frameEmptyLen : UInt32 := 7

/-- `mdr_frame_t`. `body` is the allocation from the `payload` member on: the
payload bytes, then the checksum byte. -/
structure Frame where
  dataType : UInt8
  sequenceId : UInt8
  payloadLength : UInt32
  body : List UInt8
  deriving DecidableEq, Repr

/-- `htonl`: the four bytes of a 32-bit value in network order. -/
def be32 (n : UInt32) : List UInt8 :=
  [UInt8.ofNat (n.toNat / 2 ^ 24), UInt8.ofNat (n.toNat / 2 ^ 16), UInt8.ofNat (n.toNat / 2 ^ 8),
    UInt8.ofNat n.toNat]

/-- `ntohl` of four bytes read from the wire. -/
def ofBe32 (b0 b1 b2 b3 : UInt8) : UInt32 :=
  UInt32.ofNat (b0.toNat * 2 ^ 24 + b1.toNat * 2 ^ 16 + b2.toNat * 2 ^ 8 + b3.toNat)

/-- Reading back the network-order bytes of a 32-bit value gives the value. -/
theorem ofBe32_be32 (n : UInt32) :
    ofBe32 (UInt8.ofNat (n.toNat / 2 ^ 24)) (UInt8.ofNat (n.toNat / 2 ^ 16))
      (UInt8.ofNat (n.toNat / 2 ^ 8)) (UInt8.ofNat n.toNat) = n := by
  apply UInt32.toNat_inj.mp
  have bound := n.toNat_lt
  simp only [ofBe32, UInt8.toNat_ofNat', UInt32.toNat_ofNat']
  omega

namespace Frame

/-- `MDR_FRAME_EMPTY_LEN + frame->payload_length`, in the 32-bit arithmetic of C. -/
def frameLen (f : Frame) : Nat :=
  (frameEmptyLen + f.payloadLength).toNat

/-- The payload bytes. -/
def payload (f : Frame) : List UInt8 :=
  f.body.take f.payloadLength.toNat

/-- `mdr_frame_checksum`: the checksum byte stored in the frame (`none` outside
the allocation). -/
def checksum (f : Frame) : Option UInt8 :=
  f.body[f.payloadLength.toNat]?

/-- The frame as bytes, the length in network order. The host keeps the length
in its own order; the sum below does not depend on the order. -/
def bytes (f : Frame) : List UInt8 :=
  f.dataType :: f.sequenceId :: be32 f.payloadLength ++ f.body

/-- `mdr_frame_compute_checksum`: the sum of all bytes but the last. -/
def computeChecksum (f : Frame) : UInt8 :=
  (f.bytes.take (f.frameLen - 1)).foldl (· + ·) 0

/-- `*mdr_frame_checksum(frame) = mdr_frame_compute_checksum(frame)`. -/
def setChecksum (f : Frame) : Frame :=
  { f with body := f.body.set f.payloadLength.toNat f.computeChecksum }

/-- The allocation holds the announced payload and the checksum byte, and the
frame's length does not wrap in 32 bits. -/
structure WellFormed (f : Frame) : Prop where
  body : f.body.length = f.payloadLength.toNat + 1
  length : f.payloadLength.toNat + 7 < 2 ^ 32

theorem frameLen_of_wellFormed {f : Frame} (wf : f.WellFormed) :
    f.frameLen = f.payloadLength.toNat + 7 := by
  have small := wf.length
  simp only [frameLen, frameEmptyLen, UInt32.toNat_add, UInt32.reduceToNat]
  omega

theorem bytes_length (f : Frame) : f.bytes.length = 6 + f.body.length := by
  simp [bytes, be32]
  omega

/-- A well-formed frame is exactly its `frameLen` bytes. -/
theorem bytes_length_of_wellFormed {f : Frame} (wf : f.WellFormed) :
    f.bytes.length = f.frameLen := by
  rw [bytes_length, frameLen_of_wellFormed wf, wf.body]
  omega

@[simp] theorem setChecksum_sequenceId (f : Frame) : f.setChecksum.sequenceId = f.sequenceId := rfl
@[simp] theorem setChecksum_dataType (f : Frame) : f.setChecksum.dataType = f.dataType := rfl
@[simp] theorem setChecksum_payloadLength (f : Frame) :
    f.setChecksum.payloadLength = f.payloadLength := rfl

end Frame

end Libmdr
