import Libmdr.FrameConn.Escape

/-!
# The frame connection

`struct mdr_frameconn` and its operations (`src/frameconn.c`): the scanner that
takes frames out of the read buffer, the read loop around it, and the two
functions that write.

The buffers are lists of the bytes in use, so `read_buf_len` and `write_buf_len`
are their lengths. A `memmove` that shifts the bytes after index `i` to the front
is `List.drop`.
-/

namespace Libmdr
set_option autoImplicit false

/-- `FRAME_BUF_SIZE`. -/
def frameBufSize : Nat := 8192

/-- `struct mdr_frameconn`, less the socket's number. -/
structure FrameConn where
  readBuf : List UInt8
  readStarted : Bool
  writeBuf : List UInt8
  deriving DecidableEq, Repr

namespace FrameConn

/-- `mdr_frameconn_new`. -/
def fresh : FrameConn := { readBuf := [], readStarted := false, writeBuf := [] }

/-- `mdr_frameconn_waiting_write`. -/
def waitingWrite (c : FrameConn) : Bool := decide (0 < c.writeBuf.length)

/-! ## Reading -/

/-- The scanning loop of `mdr_frameconn_next_frame` from index `i` on. A START
byte drops everything up to itself and restarts the scan; an END byte of a
started frame takes the bytes before it as a frame. When these are no valid
frame the scan goes on at `i + 1` of the shifted buffer. -/
def nextFrameLoop (i : Nat) (c : FrameConn) (errno : Errno) : Option Frame × FrameConn × Errno :=
  if h : i < c.readBuf.length then
    if c.readBuf[i] = frameStartByte then
      nextFrameLoop 0 { c with readBuf := c.readBuf.drop (i + 1), readStarted := true } errno
    else if c.readBuf[i] = frameEndByte ∧ c.readStarted = true then
      let shifted := { c with readBuf := c.readBuf.drop (i + 1), readStarted := false }
      match unescapeFrame (c.readBuf.take i) with
      | some frame => (some frame, shifted, errno)
      | none => nextFrameLoop (i + 1) shifted mdrEInvalidFrame
    else nextFrameLoop (i + 1) c errno
  else
    -- A full buffer without a frame is cleared.
    if frameBufSize ≤ c.readBuf.length then
      (none, { c with readBuf := [], readStarted := false }, 0)
    else (none, c, 0)
termination_by c.readBuf.length - i
decreasing_by
  · simp only [List.length_drop]; omega
  · simp only [List.length_drop]; omega
  · omega

/-- `mdr_frameconn_next_frame`: the next frame of the read buffer. Without one,
errno is 0. -/
def nextFrame (c : FrameConn) (errno : Errno) : Option Frame × FrameConn × Errno :=
  nextFrameLoop 0 c errno

/-- After a scan that finds no frame there is room in the read buffer. -/
theorem nextFrameLoop_room (i : Nat) (c : FrameConn) (errno : Errno) {c' : FrameConn}
    {errno' : Errno} (run : nextFrameLoop i c errno = (none, c', errno')) :
    c'.readBuf.length < frameBufSize ∧ errno' = 0 := by
  fun_induction nextFrameLoop i c errno with
  | case1 _ _ _ _ _ ih => exact ih run
  | case2 => cases run
  | case3 _ _ _ _ _ _ _ _ ih => exact ih run
  | case4 _ _ _ _ _ _ ih => exact ih run
  | case5 => cases run; exact ⟨Nat.zero_lt_succ _, rfl⟩
  | case6 _ _ _ _ small => cases run; exact ⟨by omega, rfl⟩

/-- A scan leaves no more bytes in the buffer, and fewer when it returns a frame. -/
theorem nextFrameLoop_length (i : Nat) (c : FrameConn) (errno : Errno) :
    (nextFrameLoop i c errno).2.1.readBuf.length +
      (nextFrameLoop i c errno).1.toList.length ≤ c.readBuf.length := by
  fun_induction nextFrameLoop i c errno with
  | case1 i c errno small isStart ih => rw [List.length_drop] at ih; omega
  | case2 i c errno small _ isEnd shifted frame =>
    simp only [shifted, List.length_drop, Option.toList_some, List.length_singleton]
    omega
  | case3 i c errno small _ isEnd shifted isInvalid =>
    rename_i ih
    simp only [shifted, List.length_drop] at ih ⊢
    omega
  | case4 i c errno small notStart notEnd ih => exact ih
  | case5 => simp
  | case6 => simp

theorem nextFrame_length {c c' : FrameConn} {errno errno' : Errno} {frame : Option Frame}
    (run : nextFrame c errno = (frame, c', errno')) :
    c'.readBuf.length + frame.toList.length ≤ c.readBuf.length := by
  have bound := nextFrameLoop_length 0 c errno
  rw [← nextFrame, run] at bound
  exact bound

/-- The `read_bytes` label: `read`, again as long as it is interrupted. -/
def readBytes (h : Host) (n : Nat) : Option (Except Errno (List UInt8) × Host) :=
  match _run : h.read n with
  | none => none
  | some (.error e, h) => if e = eintr then readBytes h n else some (.error e, h)
  | some (.ok bytes, h) => some (.ok bytes, h)
termination_by h.reads.length
decreasing_by exact Host.read_error_reads _run

theorem readBytes_eq (h : Host) (n : Nat) :
    readBytes h n =
      match h.read n with
      | none => none
      | some (.error e, h) => if e = eintr then readBytes h n else some (.error e, h)
      | some (.ok bytes, h) => some (.ok bytes, h) := by
  rw [readBytes]
  rcases h.read n with _ | ⟨_ | bytes, h'⟩ <;> rfl

theorem readBytes_pendingReads {h h' : Host} {n : Nat} {r : Except Errno (List UInt8)}
    (space : 0 < n) (run : readBytes h n = some (r, h')) : h'.pendingReads < h.pendingReads := by
  fun_induction readBytes h n with
  | case1 => cases run
  | case2 h h₁ first ih => exact Nat.lt_trans (ih run) (Host.read_pendingReads space first)
  | case3 h e h₁ first => cases run; exact Host.read_pendingReads space first
  | case4 h bytes h₁ first => cases run; exact Host.read_pendingReads space first

/-- Bytes that are read come from those to come. -/
theorem readBytes_bytes_le {h h' : Host} {n : Nat} {bytes : List UInt8}
    (run : readBytes h n = some (.ok bytes, h')) :
    bytes.length + h'.pendingReads ≤ h.pendingReads := by
  fun_induction readBytes h n with
  | case1 => cases run
  | case2 h h₁ first ih =>
    have fewer := Host.read_error_pendingReads first
    have rest := ih run
    omega
  | case3 => cases run
  | case4 h bytes h₁ first => cases run; exact Host.read_bytes_le first

/-- With an error to come `read` returns. -/
theorem readBytes_ne_none {h : Host} {n : Nat} (blocks : Host.Blocks h.reads) :
    readBytes h n ≠ none := by
  fun_induction readBytes h n with
  | case1 h ended =>
    rw [Host.read_eq_none] at ended
    rw [ended] at blocks
    exact absurd blocks id
  | case2 h h₁ first ih =>
    rw [Host.read_error first] at blocks
    exact ih (blocks rfl)
  | case3 => simp
  | case4 => simp

/-- `read` gives the next bytes of the stream. -/
theorem readBytes_ok {h h' : Host} {n : Nat} {bytes : List UInt8}
    (run : readBytes h n = some (.ok bytes, h')) :
    bytes.length ≤ n ∧ Host.arriving h.reads = bytes ++ Host.arriving h'.reads ∧
      (Host.Blocks h.reads → Host.Blocks h'.reads) := by
  fun_induction readBytes h n with
  | case1 => cases run
  | case2 h h₁ first ih =>
    rw [Host.read_error first]
    simpa [Host.arriving, Host.Blocks] using ih run
  | case3 => cases run
  | case4 h bytes h₁ first => cases run; exact Host.read_ok first

/-- `read` fails at the end of the stream. -/
theorem readBytes_error {h h' : Host} {n : Nat} {e : Errno}
    (run : readBytes h n = some (.error e, h')) : Host.arriving h.reads = [] := by
  fun_induction readBytes h n with
  | case1 => cases run
  | case2 h h₁ first ih =>
    rw [Host.read_error first]
    simpa [Host.arriving] using ih run
  | case3 h e h₁ first other =>
    rw [Host.read_error first]
    simp [Host.arriving, other]
  | case4 => cases run

/-- `mdr_frameconn_read_frame`: scan the buffer, and as long as no frame is in it
read more. NULL comes with the errno of the failed `read`; end of stream adds no
byte. -/
def readFrame (c : FrameConn) (h : Host) : Option (Option Frame × FrameConn × Host) :=
  match _scanned : nextFrame c h.errno with
  | (some frame, c, errno) => some (some frame, c, { h with errno })
  | (none, c, errno) =>
    if errno ≠ 0 then some (none, c, { h with errno })
    else
      match _run : readBytes { h with errno } (frameBufSize - c.readBuf.length) with
      | none => none
      | some (.error _, h) => some (none, c, h)
      | some (.ok bytes, h) => readFrame { c with readBuf := c.readBuf ++ bytes } h
termination_by h.pendingReads
decreasing_by
  have room := (nextFrameLoop_room _ _ _ _scanned).1
  exact (readBytes_pendingReads (by omega) _run : _)

theorem readFrame_eq (c : FrameConn) (h : Host) :
    readFrame c h =
      match nextFrame c h.errno with
      | (some frame, c, errno) => some (some frame, c, { h with errno })
      | (none, c, errno) =>
        if errno ≠ 0 then some (none, c, { h with errno })
        else
          match readBytes { h with errno } (frameBufSize - c.readBuf.length) with
          | none => none
          | some (.error _, h) => some (none, c, h)
          | some (.ok bytes, h) => readFrame { c with readBuf := c.readBuf ++ bytes } h := by
  rw [readFrame]
  rcases nextFrame c h.errno with ⟨_ | frame, c', errno⟩
  · by_cases failed : errno ≠ 0
    · simp [failed]
    · simp only [failed, if_false]
      rcases readBytes { h with errno } (frameBufSize - c'.readBuf.length) with
        _ | ⟨_ | bytes, h'⟩ <;> rfl
  · rfl

/-! ## Writing -/

/-- `memmove(buf, &buf[i], n)`. -/
def memmoveDown (buf : List UInt8) (i n : Nat) : List UInt8 :=
  (buf.drop i).take n ++ buf.drop n

/-- The loop of `mdr_frameconn_flush_write` at index `i`. The source never
advances `i`: after a `write` that accepts some bytes the same bytes are offered
again. -/
def flushWriteLoop (i : Nat) (c : FrameConn) (h : Host) : Option (Int × FrameConn × Host) :=
  if i < c.writeBuf.length then
    match run : h.write (c.writeBuf.drop i) with
    | none => none
    | some (.ok _, h) => flushWriteLoop i c h
    | some (.error e, h) =>
      if e = eintr then flushWriteLoop i c h
      else if 0 < i then
        let moved := memmoveDown c.writeBuf i (c.readBuf.length - i)
        some (-1, { c with writeBuf := moved.take (c.writeBuf.length - i) }, h)
      else some (-1, c, h)
  else some (0, { c with writeBuf := [] }, h)
termination_by h.writes.length
decreasing_by all_goals exact Host.write_writes run

theorem flushWriteLoop_eq (i : Nat) (c : FrameConn) (h : Host) :
    flushWriteLoop i c h =
      if i < c.writeBuf.length then
        match h.write (c.writeBuf.drop i) with
        | none => none
        | some (.ok _, h) => flushWriteLoop i c h
        | some (.error e, h) =>
          if e = eintr then flushWriteLoop i c h
          else if 0 < i then
            some (-1, { c with writeBuf :=
              (memmoveDown c.writeBuf i (c.readBuf.length - i)).take (c.writeBuf.length - i) }, h)
          else some (-1, c, h)
      else some (0, { c with writeBuf := [] }, h) := by
  rw [flushWriteLoop]
  rcases h.write (c.writeBuf.drop i) with _ | ⟨_ | n, h'⟩ <;> rfl

/-- `mdr_frameconn_flush_write`. -/
def flushWrite (c : FrameConn) (h : Host) : Option (Int × FrameConn × Host) :=
  flushWriteLoop 0 c h

/-- The loop of `mdr_frameconn_write_frame` after `written` bytes of the escaped
frame. What a blocked `write` leaves over is buffered, and -1 returned. -/
def writeFrameLoop (escaped : List UInt8) (written : Nat) (c : FrameConn) (h : Host) :
    Option (Int × FrameConn × Host) :=
  if written < escaped.length then
    match run : h.write (escaped.drop written) with
    | none => none
    | some (.ok n, h) => writeFrameLoop escaped (written + n) c h
    | some (.error e, h) =>
      if e = eintr then writeFrameLoop escaped written c h
      else if e = eagain ∨ e = ewouldblock then
        some (-1, { c with writeBuf := c.writeBuf ++ escaped.drop written }, h)
      else some (-1, c, h)
  else some (0, c, h)
termination_by h.writes.length
decreasing_by all_goals exact Host.write_writes run

theorem writeFrameLoop_eq (escaped : List UInt8) (written : Nat) (c : FrameConn) (h : Host) :
    writeFrameLoop escaped written c h =
      if written < escaped.length then
        match h.write (escaped.drop written) with
        | none => none
        | some (.ok n, h) => writeFrameLoop escaped (written + n) c h
        | some (.error e, h) =>
          if e = eintr then writeFrameLoop escaped written c h
          else if e = eagain ∨ e = ewouldblock then
            some (-1, { c with writeBuf := c.writeBuf ++ escaped.drop written }, h)
          else some (-1, c, h)
      else some (0, c, h) := by
  rw [writeFrameLoop]
  rcases h.write (escaped.drop written) with _ | ⟨_ | n, h'⟩ <;> rfl

/-- `mdr_frameconn_write_frame`. -/
def writeFrame (heap : Heap) (c : FrameConn) (h : Host) (frame : Frame) :
    Option (Int × FrameConn × Host) := do
  let (result, c, h) ← flushWrite c h
  if result < 0 ∧ ¬ (h.errno = eagain ∨ h.errno = einval) then
    return (-1, c, h)
  match escapeFrame heap frame h with
  | (none, h) => return (-1, c, h)
  | (some escaped, h) =>
    if frameBufSize - c.writeBuf.length < escaped.length then
      return (-1, c, { h with errno := ewouldblock })
    writeFrameLoop escaped 0 c h

end FrameConn

end Libmdr
