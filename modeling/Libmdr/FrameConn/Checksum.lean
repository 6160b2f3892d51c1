import Libmdr.FrameConn.Escape

/-!
# The checksum of a frame

`mdr_frame_compute_checksum` adds up the bytes of a frame as the host holds it, and
`mdr_frameconn_escape_frame` sends the length in network order. The sum modulo 256 does
not depend on the order of the bytes, so the checksum byte that was set on the host is
the right one on the wire too.
-/

namespace Libmdr
set_option autoImplicit false

/-- The sum of bytes in the arithmetic of a byte is their sum modulo 256. -/
theorem foldl_add_toNat (bytes : List UInt8) (start : UInt8) :
    (bytes.foldl (· + ·) start).toNat = (start.toNat + (bytes.map UInt8.toNat).sum) % 256 := by
  induction bytes generalizing start with
  | nil =>
    have bound := start.toNat_lt
    simp only [List.foldl_nil, List.map_nil, List.sum_nil]
    omega
  | cons b rest ih =>
    rw [List.foldl_cons, ih, UInt8.toNat_add, List.map_cons, List.sum_cons]
    omega

/-- The sum does not depend on the order of the bytes. -/
theorem foldl_add_perm {xs ys : List UInt8} (perm : xs.Perm ys) (start : UInt8) :
    xs.foldl (· + ·) start = ys.foldl (· + ·) start := by
  apply UInt8.toNat_inj.mp
  rw [foldl_add_toNat, foldl_add_toNat, (perm.map UInt8.toNat).sum_nat]

theorem be32_length (n : UInt32) : (be32 n).length = 4 := rfl

namespace Frame

/-- The frame as the host holds it, the bytes of its length in the host's order. -/
def hostBytes (length : List UInt8) (f : Frame) : List UInt8 :=
  f.dataType :: f.sequenceId :: length ++ f.body

/-- The header and the payload: all bytes but the checksum byte. -/
def summed (f : Frame) : List UInt8 :=
  f.dataType :: f.sequenceId :: be32 f.payloadLength ++ f.payload

theorem take_bytes {f : Frame} (wf : f.WellFormed) : f.bytes.take (f.frameLen - 1) = f.summed := by
  have len : f.frameLen - 1 = (f.dataType :: f.sequenceId :: be32 f.payloadLength).length +
      f.payloadLength.toNat := by
    rw [frameLen_of_wellFormed wf, List.length_cons, List.length_cons, be32_length]
    omega
  rw [len, bytes, List.take_length_add_append]
  rfl

theorem computeChecksum_eq {f : Frame} (wf : f.WellFormed) :
    f.computeChecksum = f.summed.foldl (· + ·) 0 := by
  rw [computeChecksum, take_bytes wf]

/-- `mdr_frame_compute_checksum` gives the same on every host, whatever order it keeps the
bytes of the length in. -/
theorem computeChecksum_host {f : Frame} (wf : f.WellFormed) {length : List UInt8}
    (order : length.Perm (be32 f.payloadLength)) :
    ((f.hostBytes length).take (f.frameLen - 1)).foldl (· + ·) 0 = f.computeChecksum := by
  have len : f.frameLen - 1 = (f.dataType :: f.sequenceId :: length).length +
      f.payloadLength.toNat := by
    rw [frameLen_of_wellFormed wf, List.length_cons, List.length_cons, order.length_eq, be32_length]
    omega
  rw [computeChecksum_eq wf, len, hostBytes, List.take_length_add_append]
  apply foldl_add_perm
  exact ((order.append_right f.payload).cons f.sequenceId).cons f.dataType

/-! ## Frames with the right checksum -/

/-- The checksum byte is the one that `mdr_frame_compute_checksum` gives. -/
structure Sealed (f : Frame) : Prop where
  wellFormed : f.WellFormed
  checksum : f.checksum = some f.computeChecksum

theorem WellFormed.setChecksum {f : Frame} (wf : f.WellFormed) : f.setChecksum.WellFormed where
  body := by
    rw [setChecksum_payloadLength, ← wf.body]
    exact List.length_set
  length := wf.length

/-- The checksum byte is not among those that are summed up. -/
theorem summed_setChecksum (f : Frame) : f.setChecksum.summed = f.summed := by
  have same : f.setChecksum.payload = f.payload := by
    rw [payload, setChecksum_payloadLength]
    exact List.take_set_of_le (Nat.le_refl _)
  rw [summed, same]
  rfl

theorem setChecksum_sealed {f : Frame} (wf : f.WellFormed) : f.setChecksum.Sealed where
  wellFormed := wf.setChecksum
  checksum := by
    have inside : f.payloadLength.toNat < f.body.length := by
      rw [wf.body]
      omega
    rw [computeChecksum_eq wf.setChecksum, summed_setChecksum, ← computeChecksum_eq wf, checksum]
    exact List.getElem?_set_self inside

/-- The last byte is the checksum byte. -/
theorem Sealed.bytes_eq {f : Frame} (sealed : f.Sealed) :
    f.bytes = f.summed ++ [f.computeChecksum] := by
  have body : f.body = f.payload ++ [f.computeChecksum] := by
    have whole : f.body.take (f.payloadLength.toNat + 1) = f.body :=
      List.take_of_length_le (Nat.le_of_eq sealed.wellFormed.body)
    have last : f.body[f.payloadLength.toNat]? = some f.computeChecksum := sealed.checksum
    rw [List.take_add_one, last] at whole
    exact whole.symm
  rw [bytes, summed, List.append_assoc, ← body]

/-- Bytes that begin with the two bytes of the data type and the sequence id and the
payload's length in network order, then hold that many bytes, then their sum. -/
structure SelfConsistent (payloadLength : UInt32) (bytes : List UInt8) : Prop where
  lengthField : (bytes.drop 2).take 4 = be32 payloadLength
  length : bytes.length = 7 + payloadLength.toNat
  checksum : ∃ front last, bytes = front ++ [last] ∧
    last.toNat = (front.map UInt8.toNat).sum % 256

theorem Sealed.selfConsistent {f : Frame} (sealed : f.Sealed) :
    SelfConsistent f.payloadLength f.bytes where
  lengthField := rfl
  length := by
    rw [bytes_length, sealed.wellFormed.body]
    omega
  checksum := by
    refine ⟨f.summed, f.computeChecksum, sealed.bytes_eq, ?_⟩
    rw [computeChecksum_eq sealed.wellFormed, foldl_add_toNat]
    simp

end Frame

/-! ## On the wire -/

namespace FrameConn

/-- Un-escaping what stands between START and END in the escaped form of a frame gives
self-consistent bytes. -/
def SentConsistent (frame : Frame) : Prop :=
  ∀ (heap : Heap) (h : Host) (out : List UInt8) (h' : Host),
    escapeFrame heap frame h = (some out, h') →
    ∃ inner, out = frameStartByte :: inner ++ [frameEndByte] ∧
      frameStartByte ∉ inner ∧ frameEndByte ∉ inner ∧
      Frame.SelfConsistent frame.payloadLength (unescapeBytes inner)

theorem sentConsistent {frame : Frame} (sealed : frame.Sealed) : SentConsistent frame := by
  intro heap h out h' run
  have whole : frame.bytes.take frame.frameLen = frame.bytes :=
    List.take_of_length_le (Nat.le_of_eq (Frame.bytes_length_of_wellFormed sealed.wellFormed))
  obtain ⟨noStart, noEnd⟩ := not_mem_escape frame.bytes
  refine ⟨frame.bytes.flatMap escapeByte, ?_, noStart, noEnd, ?_⟩
  · rw [escapeFrame_out run, escaped, whole]
  · rw [unescapeBytes_escape]
    exact sealed.selfConsistent

end FrameConn

end Libmdr
