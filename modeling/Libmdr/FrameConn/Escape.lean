import Libmdr.Frame
import Libmdr.Lib.Stuffing

/-!
# Escaping and un-escaping frames

`mdr_frameconn_escape_frame` and `mdr_frameconn_unescape_frame`
(`src/frameconn.c`). On the wire a frame stands between a START and an END byte;
a frame byte equal to START, END or ESCAPE is sent as ESCAPE and the byte with
bit 4 cleared.
-/

namespace Libmdr.FrameConn
set_option autoImplicit false

/-- `FRAME_START_BYTE`. -/
def frameStartByte : UInt8 := 0x3e

/-- `FRAME_ESCAPE_BYTE`. -/
def frameEscapeByte : UInt8 := 0x3d

/-- `FRAME_END_BYTE`. -/
def frameEndByte : UInt8 := 0x3c

/-- `FRAME_ESCAPE_MASK`. -/
def frameEscapeMask : UInt8 := 0x10

/-! ## The encoder -/

/-- The output buffer: the bytes written (`write` is their number) and the size
of the allocation. -/
structure EscapeBuf where
  out : List UInt8
  allocated : Nat
  deriving DecidableEq, Repr

/-- `ENSURE_ESCAPED_BUFFER(n)`: grow the allocation when `n` more bytes may not fit. -/
def ensureEscapedBuffer (heap : Heap) (n : Nat) (buf : EscapeBuf) (h : Host) :
    Option EscapeBuf × Host :=
  if buf.allocated ≤ buf.out.length + (n - 1) then
    match h.malloc heap with
    | (none, h) => (none, h)
    | (some _, h) => (some { buf with allocated := (buf.allocated + 2) * 9 / 8 }, h)
  else (some buf, h)

/-- The bytes a frame byte is sent as. -/
def escapeByte (b : UInt8) : List UInt8 :=
  if b = frameStartByte ∨ b = frameEscapeByte ∨ b = frameEndByte then
    [frameEscapeByte, b &&& ~~~frameEscapeMask]
  else [b]

/-- The loop over the frame's bytes. -/
def escapeLoop (heap : Heap) : List UInt8 → EscapeBuf → Host → Option EscapeBuf × Host
  | [], buf, h => (some buf, h)
  | b :: rest, buf, h =>
    match ensureEscapedBuffer heap (escapeByte b).length buf h with
    | (none, h) => (none, h)
    | (some buf, h) => escapeLoop heap rest { buf with out := buf.out ++ escapeByte b } h

/-- `mdr_frameconn_escape_frame`. The loop reads `frame_len` bytes of the frame,
the length field in network order; the last `realloc` gives the block its final
size. -/
def escapeFrame (heap : Heap) (frame : Frame) (h : Host) : Option (List UInt8) × Host :=
  match h.malloc heap with
  | (none, h) => (none, h)
  | (some _, h) =>
    let buf : EscapeBuf :=
      { out := [frameStartByte], allocated := 2 + (frame.frameLen + 2) * 9 / 8 }
    match escapeLoop heap (frame.bytes.take frame.frameLen) buf h with
    | (none, h) => (none, h)
    | (some buf, h) =>
      match ensureEscapedBuffer heap 1 buf h with
      | (none, h) => (none, h)
      | (some buf, h) =>
        match h.malloc heap with
        | (none, h) => (none, h)
        | (some _, h) => (some (buf.out ++ [frameEndByte]), h)

/-! ## The decoder -/

/-- The un-escaping loop. An ESCAPE byte with nothing after it stands for itself. -/
def unescapeBytes : List UInt8 → List UInt8
  | [] => []
  | [b] => [b]
  | b :: c :: rest =>
    if b = frameEscapeByte then (c ||| frameEscapeMask) :: unescapeBytes rest
    else b :: unescapeBytes (c :: rest)

/-- `mdr_frameconn_unescape_frame`: the frame in the bytes between START and END,
`none` (with errno `MDR_E_INVALID_FRAME`) when it is too short for its header or
for the length it announces. `frame_len` wraps in 32 bits as in C; at zero the
closing `realloc` frees the block and gives NULL. -/
def unescapeFrame (escaped : List UInt8) : Option Frame :=
  match unescapeBytes escaped with
  | dataType :: sequenceId :: l0 :: l1 :: l2 :: l3 :: body =>
    let frame : Frame := ⟨dataType, sequenceId, ofBe32 l0 l1 l2 l3, body⟩
    if body.length < 1 then none
    else if 6 + body.length < frame.frameLen then none
    else if frame.frameLen = 0 then none
    else some { frame with body := body.take (frame.frameLen - 6) }
  | _ => none

/-! ## The stuffing code

The loops of the encoder and of the decoder are those of a stuffing code. -/

theorem reserved_cases {b : UInt8}
    (reserved : b = frameStartByte ∨ b = frameEscapeByte ∨ b = frameEndByte) :
    (b &&& ~~~frameEscapeMask) ||| frameEscapeMask = b ∧
      ¬ (b &&& ~~~frameEscapeMask = frameStartByte ∨ b &&& ~~~frameEscapeMask = frameEscapeByte ∨
        b &&& ~~~frameEscapeMask = frameEndByte) := by
  rcases reserved with rfl | rfl | rfl <;> decide

/-- START, ESCAPE and END are reserved; the mask is bit 4. -/
def stuffing : Stuffing.Code UInt8 where
  escape := frameEscapeByte
  reserved b := decide (b = frameStartByte ∨ b = frameEscapeByte ∨ b = frameEndByte)
  mask b := b &&& ~~~frameEscapeMask
  unmask b := b ||| frameEscapeMask
  escape_reserved := by decide
  mask_free b reserved := decide_eq_false (reserved_cases (of_decide_eq_true reserved)).2
  unmask_mask b reserved := (reserved_cases (of_decide_eq_true reserved)).1

theorem flatMap_escapeByte (bytes : List UInt8) :
    bytes.flatMap escapeByte = Stuffing.encode stuffing bytes := by
  unfold Stuffing.encode
  congr 1
  funext b
  simp [escapeByte, Stuffing.encodeSymbol, stuffing]

theorem unescapeBytes_eq_decode (bytes : List UInt8) :
    unescapeBytes bytes = Stuffing.decode stuffing bytes := by
  fun_induction unescapeBytes bytes with
  | case1 => rfl
  | case2 => rfl
  | case3 c rest ih => simp [Stuffing.decode, stuffing, ih]
  | case4 b c rest other ih =>
    have plain : b ≠ stuffing.escape := other
    rw [Stuffing.decode, if_neg plain, ih]

/-- The decoder's loop undoes the encoder's. -/
theorem unescapeBytes_escape (bytes : List UInt8) :
    unescapeBytes (bytes.flatMap escapeByte) = bytes := by
  rw [unescapeBytes_eq_decode, flatMap_escapeByte, Stuffing.decode_encode]

/-- No START and no END byte is left in escaped bytes. -/
theorem not_mem_escape (bytes : List UInt8) :
    frameStartByte ∉ bytes.flatMap escapeByte ∧ frameEndByte ∉ bytes.flatMap escapeByte := by
  rw [flatMap_escapeByte]
  constructor
  · intro sent
    have isEscape := Stuffing.eq_escape_of_mem_encode stuffing sent (by decide)
    exact absurd isEscape (by decide)
  · intro sent
    have isEscape := Stuffing.eq_escape_of_mem_encode stuffing sent (by decide)
    exact absurd isEscape (by decide)

/-- Un-escaping gives back a well-formed frame. -/
theorem unescapeFrame_escape {frame : Frame} (wf : frame.WellFormed) :
    unescapeFrame (frame.bytes.flatMap escapeByte) = some frame := by
  have length := Frame.frameLen_of_wellFormed wf
  have body := wf.body
  have whole : frame.body.take (frame.frameLen - 6) = frame.body :=
    List.take_of_length_le (by omega)
  have back := ofBe32_be32 frame.payloadLength
  unfold unescapeFrame
  rw [unescapeBytes_escape]
  simp only [Frame.bytes, be32, List.cons_append, List.nil_append, back]
  change (if frame.body.length < 1 then none
    else if 6 + frame.body.length < frame.frameLen then none
    else if frame.frameLen = 0 then none
    else some { frame with body := frame.body.take (frame.frameLen - 6) }) = some frame
  rw [if_neg (by omega), if_neg (by omega), if_neg (by omega), whole]

/-! ## What the encoder writes -/

/-- The bytes of a frame on the wire. -/
def escaped (frame : Frame) : List UInt8 :=
  frameStartByte :: (frame.bytes.take frame.frameLen).flatMap escapeByte ++ [frameEndByte]

theorem ensureEscapedBuffer_out {heap : Heap} {n : Nat} {buf buf' : EscapeBuf} {h h' : Host}
    (run : ensureEscapedBuffer heap n buf h = (some buf', h')) : buf'.out = buf.out := by
  unfold ensureEscapedBuffer at run
  split at run
  · split at run <;> cases run
    rfl
  · cases run
    rfl

theorem escapeLoop_out {heap : Heap} {bytes : List UInt8} {buf buf' : EscapeBuf} {h h' : Host}
    (run : escapeLoop heap bytes buf h = (some buf', h')) :
    buf'.out = buf.out ++ bytes.flatMap escapeByte := by
  induction bytes generalizing buf h with
  | nil => cases run; simp
  | cons b rest ih =>
    simp only [escapeLoop] at run
    split at run
    · cases run
    · rename_i grown h₁ ensured
      rw [ih run, ensureEscapedBuffer_out ensured, List.flatMap_cons, List.append_assoc]

/-- When no allocation fails the encoder gives the frame's escaped form. -/
theorem escapeFrame_out {heap : Heap} {frame : Frame} {h h' : Host} {out : List UInt8}
    (run : escapeFrame heap frame h = (some out, h')) : out = escaped frame := by
  unfold escapeFrame at run
  split at run
  · cases run
  · simp only at run
    split at run
    · cases run
    · rename_i looped
      split at run
      · cases run
      · rename_i ensured
        split at run
        · cases run
        · cases run
          rw [ensureEscapedBuffer_out ensured, escapeLoop_out looped]
          simp [escaped]

/-! ## When no allocation fails -/

theorem malloc_some {heap : Heap} (never : ∀ k, (heap k).isSome) (h : Host) :
    ∃ block h', h.malloc heap = (some block, h') := by
  obtain ⟨block, gives⟩ := Option.isSome_iff_exists.mp (never h.mallocs)
  exact ⟨block, { h with mallocs := h.mallocs + 1 }, by rw [Host.malloc, gives]⟩

theorem ensureEscapedBuffer_some {heap : Heap} (never : ∀ k, (heap k).isSome) (n : Nat)
    (buf : EscapeBuf) (h : Host) :
    ∃ buf' h', ensureEscapedBuffer heap n buf h = (some buf', h') := by
  obtain ⟨block, h', gives⟩ := malloc_some never h
  unfold ensureEscapedBuffer
  split
  · exact ⟨{ buf with allocated := (buf.allocated + 2) * 9 / 8 }, h', by rw [gives]⟩
  · exact ⟨buf, h, rfl⟩

theorem escapeLoop_some {heap : Heap} (never : ∀ k, (heap k).isSome) (bytes : List UInt8)
    (buf : EscapeBuf) (h : Host) : ∃ buf' h', escapeLoop heap bytes buf h = (some buf', h') := by
  induction bytes generalizing buf h with
  | nil => exact ⟨buf, h, rfl⟩
  | cons b rest ih =>
    obtain ⟨grown, h', ensured⟩ := ensureEscapedBuffer_some never (escapeByte b).length buf h
    rw [escapeLoop, ensured]
    exact ih _ h'

theorem escapeFrame_some {heap : Heap} (never : ∀ k, (heap k).isSome) (frame : Frame) (h : Host) :
    ∃ out h', escapeFrame heap frame h = (some out, h') := by
  obtain ⟨block, h₁, gives⟩ := malloc_some never h
  obtain ⟨buf, h₂, looped⟩ := escapeLoop_some never (frame.bytes.take frame.frameLen)
    { out := [frameStartByte], allocated := 2 + (frame.frameLen + 2) * 9 / 8 } h₁
  obtain ⟨buf', h₃, ensured⟩ := ensureEscapedBuffer_some never 1 buf h₂
  obtain ⟨last, h₄, shrunk⟩ := malloc_some never h₃
  refine ⟨buf'.out ++ [frameEndByte], h₄, ?_⟩
  simp only [escapeFrame, gives, looped, ensured, shrunk]

end Libmdr.FrameConn
