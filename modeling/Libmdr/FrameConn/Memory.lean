import Libmdr.FrameConn.Model
import Libmdr.Lib.Buffer
import Libmdr.Lib.Traced

/-!
# A frame connection in memory

`struct mdr_frameconn` with its two arrays as they lie in memory, and the functions of
`src/frameconn.c` on it. Indexes and lengths are those that the C code computes, and what it
does to the arrays is recorded, also by a call that does not return.

An array goes on behind its end: the cells from index `FRAME_BUF_SIZE` on are those of the
padding behind it. On the bytes in use the functions are those of the connection.
-/

namespace Libmdr.FrameConn
set_option autoImplicit false

/-- `a - b` of `size_t`. -/
def sizeSub (a b : Nat) : Nat := (a + 2 ^ 64 - b) % 2 ^ 64

theorem sizeSub_of_le {a b : Nat} (fits : b ≤ a) (small : a < 2 ^ 64) : sizeSub a b = a - b := by
  unfold sizeSub
  omega

/-- `struct mdr_frameconn`, less the socket's number. -/
structure Memory where
  readBuf : Buffer UInt8
  readBufLen : Nat
  readStarted : Bool
  writeBuf : Buffer UInt8
  writeBufLen : Nat

/-- A `memmove` in `mdr_frameconn_next_frame`, of `length` bytes behind the delimiter at
`index`, and the connection with its new length. -/
structure Move where
  before : Memory
  index : Nat
  length : Nat
  after : Memory

/-- What a function does to the arrays. -/
inductive Access
  /-- `mdr_frameconn_next_frame` is called, and makes these moves. -/
  | scan (m : Memory) (moves : List Move)
  /-- `read(sock, &read_buf[read_buf_len], n)`. -/
  | read (m : Memory) (n : Nat)
  /-- `memcpy(&write_buf[write_buf_len], …, n)`. -/
  | memcpy (m : Memory) (n : Nat)

namespace Memory

/-- `mdr_frameconn_new`. The arrays hold what `malloc` left in them. -/
def new (readBuf writeBuf : Buffer UInt8) : Memory :=
  { readBuf, readBufLen := 0, readStarted := false, writeBuf, writeBufLen := 0 }

/-- The bytes in use. -/
def contents (m : Memory) : FrameConn :=
  { readBuf := m.readBuf.slice 0 m.readBufLen
    readStarted := m.readStarted
    writeBuf := m.writeBuf.slice 0 m.writeBufLen }

@[simp] theorem contents_readBuf_length (m : Memory) :
    m.contents.readBuf.length = m.readBufLen := m.readBuf.length_slice 0 m.readBufLen

@[simp] theorem contents_writeBuf_length (m : Memory) :
    m.contents.writeBuf.length = m.writeBufLen := m.writeBuf.length_slice 0 m.writeBufLen

/-- A new connection is the fresh one. -/
theorem contents_new (readBuf writeBuf : Buffer UInt8) :
    (new readBuf writeBuf).contents = fresh := rfl

/-! ## Reading -/

/-- `memmove(read_buf, &read_buf[i+1], read_buf_len - i+1)`, `read_buf_len -= i+1` and
`read_started = started`. -/
def consume (m : Memory) (i : Nat) (started : Bool) : Move :=
  let length := m.readBufLen - i + 1
  { before := m, index := i, length
    after := { m with
      readBuf := m.readBuf.move 0 (i + 1) length
      readBufLen := m.readBufLen - (i + 1)
      readStarted := started } }

/-- The bytes in use are moved as they should be. -/
theorem contents_consume (m : Memory) (i : Nat) (started : Bool) :
    (m.consume i started).after.contents =
      { m.contents with readBuf := m.contents.readBuf.drop (i + 1), readStarted := started } := by
  have moved : (m.consume i started).after.contents.readBuf =
      m.contents.readBuf.drop (i + 1) := by
    change (m.readBuf.move 0 (i + 1) (m.readBufLen - i + 1)).slice 0 (m.readBufLen - (i + 1)) =
      (m.readBuf.slice 0 m.readBufLen).drop (i + 1)
    rw [Buffer.slice_move _ _ _ (by omega), Buffer.drop_slice, Nat.zero_add]
  rw [← moved]
  rfl

/-- What `mdr_frameconn_next_frame` returns, and the moves that it made. -/
structure Scan where
  moves : List Move
  frame : Option Frame
  memory : Memory
  errno : Errno

def Scan.behind (move : Move) (scan : Scan) : Scan := { scan with moves := move :: scan.moves }

/-- What the function returns on the bytes in use. -/
def Scan.result (scan : Scan) : Option Frame × FrameConn × Errno :=
  (scan.frame, scan.memory.contents, scan.errno)

/-- The scanning loop of `mdr_frameconn_next_frame` from index `i` on. -/
def nextFrameLoop (i : Nat) (m : Memory) (errno : Errno) : Scan :=
  if i < m.readBufLen then
    if m.readBuf i = frameStartByte then
      (nextFrameLoop 0 (m.consume i true).after errno).behind (m.consume i true)
    else if m.readBuf i = frameEndByte ∧ m.readStarted = true then
      match unescapeFrame (m.readBuf.slice 0 i) with
      | some frame =>
        { moves := [m.consume i false], frame := some frame
          memory := (m.consume i false).after, errno }
      | none =>
        (nextFrameLoop (i + 1) (m.consume i false).after mdrEInvalidFrame).behind
          (m.consume i false)
    else nextFrameLoop (i + 1) m errno
  else if frameBufSize ≤ m.readBufLen then
    { moves := [], frame := none, memory := { m with readBufLen := 0, readStarted := false }
      errno := 0 }
  else { moves := [], frame := none, memory := m, errno := 0 }
termination_by m.readBufLen - i
decreasing_by
  · simp only [consume]; omega
  · simp only [consume]; omega
  · omega

/-- `mdr_frameconn_next_frame`. -/
def nextFrame (m : Memory) (errno : Errno) : Scan := nextFrameLoop 0 m errno

theorem contents_bound {m : Memory} {i : Nat} (small : i < m.readBufLen) :
    i < m.contents.readBuf.length := by
  rw [contents_readBuf_length]
  exact small

theorem contents_getElem {m : Memory} {i : Nat} (bound : i < m.contents.readBuf.length) :
    m.contents.readBuf[i] = m.readBuf i :=
  (Buffer.getElem_slice m.readBuf 0 m.readBufLen i bound).trans (congrArg m.readBuf (Nat.zero_add i))

theorem contents_take {m : Memory} {i : Nat} (bound : i < m.readBufLen) :
    m.contents.readBuf.take i = m.readBuf.slice 0 i :=
  m.readBuf.take_slice (Nat.le_of_lt bound)

/-- On the bytes in use the scan is that of the connection. -/
theorem nextFrameLoop_result (i : Nat) (m : Memory) (errno : Errno) :
    (m.nextFrameLoop i errno).result = FrameConn.nextFrameLoop i m.contents errno := by
  fun_induction nextFrameLoop i m errno with
  | case1 i m errno small isStart ih =>
    have bound := contents_bound small
    have isStart' : m.contents.readBuf[i] = frameStartByte := (contents_getElem bound).trans isStart
    change (nextFrameLoop 0 (m.consume i true).after errno).result = _
    rw [ih, contents_consume, FrameConn.nextFrameLoop.eq_def i, dif_pos bound, if_pos isStart']
  | case2 i m errno small notStart isEnd frame valid =>
    have bound := contents_bound small
    have same := contents_getElem bound
    rw [FrameConn.nextFrameLoop, dif_pos bound, if_neg (same ▸ notStart), if_pos (same ▸ isEnd)]
    dsimp only
    rw [contents_take small, valid, ← contents_consume]
    rfl
  | case3 i m errno small notStart isEnd isInvalid ih =>
    have bound := contents_bound small
    have same := contents_getElem bound
    change (nextFrameLoop (i + 1) (m.consume i false).after mdrEInvalidFrame).result = _
    rw [ih, contents_consume, FrameConn.nextFrameLoop.eq_def i, dif_pos bound,
      if_neg (same ▸ notStart), if_pos (same ▸ isEnd)]
    dsimp only
    rw [contents_take small, isInvalid]
  | case4 i m errno small notStart notEnd ih =>
    have bound := contents_bound small
    have same := contents_getElem bound
    rw [ih, FrameConn.nextFrameLoop.eq_def i, dif_pos bound, if_neg (same ▸ notStart),
      if_neg (same ▸ notEnd)]
  | case5 i m errno done full =>
    rw [FrameConn.nextFrameLoop, dif_neg (by rw [contents_readBuf_length]; exact done),
      if_pos (by rw [contents_readBuf_length]; exact full)]
    rfl
  | case6 i m errno done room =>
    rw [FrameConn.nextFrameLoop, dif_neg (by rw [contents_readBuf_length]; exact done),
      if_neg (by rw [contents_readBuf_length]; exact room)]
    rfl

theorem nextFrame_result (m : Memory) (errno : Errno) :
    (m.nextFrame errno).result = FrameConn.nextFrame m.contents errno :=
  nextFrameLoop_result 0 m errno

/-- After a scan that finds no frame there is room for a `read`. -/
theorem nextFrame_room {m m' : Memory} {errno errno' : Errno} {moves : List Move}
    (scanned : m.nextFrame errno = ⟨moves, none, m', errno'⟩) :
    m'.readBufLen < frameBufSize ∧ errno' = 0 := by
  have same := nextFrame_result m errno
  rw [scanned] at same
  have room := nextFrameLoop_room _ _ _ same.symm
  rwa [contents_readBuf_length] at room

/-- The `read_bytes` label. -/
def readBytes (m : Memory) (h : Host) : Traced Access (Except Errno (List UInt8) × Host) :=
  let n := sizeSub frameBufSize m.readBufLen
  match _run : h.read n with
  | none => .after [.read m n] .stuck
  | some (.error e, h) =>
    if e = eintr then .after [.read m n] (readBytes m h)
    else .after [.read m n] (pure (.error e, h))
  | some (.ok bytes, h) => .after [.read m n] (pure (.ok bytes, h))
termination_by h.reads.length
decreasing_by exact Host.read_error_reads _run

theorem readBytes_result (m : Memory) (h : Host) :
    (m.readBytes h).result = FrameConn.readBytes h (sizeSub frameBufSize m.readBufLen) := by
  fun_induction readBytes m h with
  | case1 h n ended =>
    rw [readBytes_eq, ended]
    rfl
  | case2 h n h₁ first ih =>
    rw [readBytes_eq, first]
    exact ih
  | case3 h n e h₁ first other =>
    rw [readBytes_eq, first]
    exact (if_neg other).symm
  | case4 h n bytes h₁ first =>
    rw [readBytes_eq, first]
    rfl

/-- Bytes that were read go behind those in use. -/
def received (m : Memory) (bytes : List UInt8) : Memory :=
  { m with
    readBuf := m.readBuf.put m.readBufLen bytes
    readBufLen := m.readBufLen + bytes.length }

theorem contents_received (m : Memory) (bytes : List UInt8) :
    (m.received bytes).contents =
      { m.contents with readBuf := m.contents.readBuf ++ bytes } := by
  have behind : (m.received bytes).contents.readBuf = m.contents.readBuf ++ bytes := by
    have put := m.readBuf.slice_put_behind 0 m.readBufLen bytes
    rw [Nat.zero_add] at put
    exact put
  rw [← behind]
  rfl

/-- The size that `read` is given after a scan that finds no frame. -/
theorem sizeSub_of_room {n : Nat} (room : n ≤ frameBufSize) :
    sizeSub frameBufSize n = frameBufSize - n := sizeSub_of_le room (by decide)

/-- `mdr_frameconn_read_frame`. -/
def readFrame (m : Memory) (h : Host) : Traced Access (Option Frame × Memory × Host) :=
  match _scanned : m.nextFrame h.errno with
  | ⟨moves, some frame, m', errno⟩ =>
    .after [.scan m moves] (pure (some frame, m', { h with errno }))
  | ⟨moves, none, m', errno⟩ =>
    if errno ≠ 0 then .after [.scan m moves] (pure (none, m', { h with errno }))
    else
      match _run : m'.readBytes { h with errno } with
      | ⟨reads, none⟩ => .after (.scan m moves :: reads) .stuck
      | ⟨reads, some (.error _, h')⟩ => .after (.scan m moves :: reads) (pure (none, m', h'))
      | ⟨reads, some (.ok bytes, h')⟩ =>
        .after (.scan m moves :: reads) (readFrame (m'.received bytes) h')
termination_by h.pendingReads
decreasing_by
  have room := (nextFrame_room _scanned).1
  have run := readBytes_result m' { h with errno }
  rw [_run, sizeSub_of_room (Nat.le_of_lt room)] at run
  exact (readBytes_pendingReads (Nat.sub_pos_of_lt room) run.symm : _)

/-- What a function of the connection returns, with its bytes in use. -/
def inUse {α : Type} (r : α × Memory × Host) : α × FrameConn × Host :=
  (r.1, r.2.1.contents, r.2.2)

/-- A scan that finds no frame, and the `read` behind it. -/
theorem readFrame_of_nothing {m m' : Memory} {h : Host} {moves : List Move} {errno : Errno}
    (scanned : m.nextFrame h.errno = ⟨moves, none, m', errno⟩) :
    FrameConn.readFrame m.contents h =
      match (m'.readBytes { h with errno }).result with
      | none => none
      | some (.error _, h') => some (none, m'.contents, h')
      | some (.ok bytes, h') => FrameConn.readFrame (m'.received bytes).contents h' := by
  obtain ⟨room, rfl⟩ := nextFrame_room scanned
  have same := nextFrame_result m h.errno
  rw [scanned] at same
  rw [readFrame_eq, ← same, readBytes_result, sizeSub_of_room (Nat.le_of_lt room)]
  simp only [Scan.result, ne_eq, not_true_eq_false, if_false, contents_readBuf_length]
  rcases FrameConn.readBytes { h with errno := 0 } (frameBufSize - m'.readBufLen) with
    _ | ⟨e | bytes, h'⟩
  · rfl
  · rfl
  · exact congrArg (FrameConn.readFrame · h') (contents_received m' bytes).symm

theorem readFrame_result (m : Memory) (h : Host) :
    (m.readFrame h).result.map inUse = FrameConn.readFrame m.contents h := by
  fun_induction readFrame m h with
  | case1 m h moves frame m' errno scanned =>
    have same := nextFrame_result m h.errno
    rw [scanned] at same
    rw [readFrame_eq, ← same]
    rfl
  | case2 m h moves m' errno scanned failed =>
    exact absurd (nextFrame_room scanned).2 failed
  | case3 m h moves m' errno scanned zero reads run =>
    rw [readFrame_of_nothing scanned, run]
    rfl
  | case4 m h moves m' errno scanned zero reads e h' run =>
    rw [readFrame_of_nothing scanned, run]
    rfl
  | case5 m h moves m' errno scanned zero reads bytes h' run ih =>
    rw [readFrame_of_nothing scanned, run]
    exact ih

/-! ## Writing -/

/-- The loop of `mdr_frameconn_flush_write` at index `i`. Its `memmove` takes the length of the
wrong buffer, but `i` never moves and is 0. -/
def flushWriteLoop (i : Nat) (m : Memory) (h : Host) : Option (Int × Memory × Host) :=
  if i < m.writeBufLen then
    match run : h.write (m.writeBuf.slice i (m.writeBufLen - i)) with
    | none => none
    | some (.ok _, h) => flushWriteLoop i m h
    | some (.error e, h) =>
      if e = eintr then flushWriteLoop i m h
      else if 0 < i then
        some (-1,
          { m with
            writeBuf := m.writeBuf.move 0 i (sizeSub m.readBufLen i)
            writeBufLen := m.writeBufLen - i }, h)
      else some (-1, m, h)
  else some (0, { m with writeBufLen := 0 }, h)
termination_by h.writes.length
decreasing_by all_goals exact Host.write_writes run

/-- `mdr_frameconn_flush_write`. -/
def flushWrite (m : Memory) (h : Host) : Option (Int × Memory × Host) := flushWriteLoop 0 m h

/-- Bytes that were not written go behind those that are pending. -/
def buffered (m : Memory) (bytes : List UInt8) : Memory :=
  { m with
    writeBuf := m.writeBuf.put m.writeBufLen bytes
    writeBufLen := m.writeBufLen + bytes.length }

/-- The loop of `mdr_frameconn_write_frame` after `written` bytes of the escaped frame. -/
def writeFrameLoop (escaped : List UInt8) (written : Nat) (m : Memory) (h : Host) :
    Traced Access (Int × Memory × Host) :=
  if written < escaped.length then
    match run : h.write (escaped.drop written) with
    | none => .stuck
    | some (.ok n, h) => writeFrameLoop escaped (written + n) m h
    | some (.error e, h) =>
      if e = eintr then writeFrameLoop escaped written m h
      else if e = eagain ∨ e = ewouldblock then
        .after [.memcpy m (escaped.length - written)]
          (pure (-1, m.buffered (escaped.drop written), h))
      else pure (-1, m, h)
  else pure (0, m, h)
termination_by h.writes.length
decreasing_by all_goals exact Host.write_writes run

/-- `mdr_frameconn_write_frame`. -/
def writeFrame (heap : Heap) (m : Memory) (h : Host) (frame : Frame) :
    Traced Access (Int × Memory × Host) :=
  match m.flushWrite h with
  | none => .stuck
  | some (result, m, h) =>
    if result < 0 ∧ ¬ (h.errno = eagain ∨ h.errno = einval) then pure (-1, m, h)
    else
      match escapeFrame heap frame h with
      | (none, h) => pure (-1, m, h)
      | (some escaped, h) =>
        if sizeSub frameBufSize m.writeBufLen < escaped.length then
          pure (-1, m, { h with errno := ewouldblock })
        else m.writeFrameLoop escaped 0 h

theorem contents_buffered (m : Memory) (bytes : List UInt8) :
    (m.buffered bytes).contents =
      { m.contents with writeBuf := m.contents.writeBuf ++ bytes } := by
  have behind : (m.buffered bytes).contents.writeBuf = m.contents.writeBuf ++ bytes := by
    have put := m.writeBuf.slice_put_behind 0 m.writeBufLen bytes
    rw [Nat.zero_add] at put
    exact put
  rw [← behind]
  rfl

theorem contents_drop (m : Memory) (i : Nat) :
    m.contents.writeBuf.drop i = m.writeBuf.slice i (m.writeBufLen - i) := by
  have dropped := m.writeBuf.drop_slice 0 m.writeBufLen i
  rw [Nat.zero_add] at dropped
  exact dropped

theorem flushWrite_result (m : Memory) (h : Host) :
    (m.flushWrite h).map inUse = m.contents.flushWrite h := by
  have length := m.contents_writeBuf_length
  have bytes := m.contents_drop 0
  unfold flushWrite FrameConn.flushWrite
  fun_induction flushWriteLoop 0 m h with
  | case1 h more ended =>
    rw [flushWriteLoop_eq, length, if_pos more, bytes, ended]
    rfl
  | case2 h more n h₁ wrote ih =>
    rw [flushWriteLoop_eq, length, if_pos more, bytes, wrote]
    exact ih
  | case3 h more h₁ interrupted ih =>
    rw [flushWriteLoop_eq, length, if_pos more, bytes, interrupted]
    exact ih.trans (if_pos rfl).symm
  | case4 h more e h₁ failed other advanced => exact absurd advanced (Nat.lt_irrefl 0)
  | case5 h more e h₁ failed other unmoved =>
    rw [flushWriteLoop_eq, length, if_pos more, bytes, failed]
    exact ((if_neg other).trans (if_neg unmoved)).symm
  | case6 h done =>
    rw [flushWriteLoop_eq, length, if_neg done]
    rfl

theorem writeFrameLoop_result (escaped : List UInt8) (written : Nat) (m : Memory) (h : Host) :
    (m.writeFrameLoop escaped written h).result.map inUse =
      FrameConn.writeFrameLoop escaped written m.contents h := by
  fun_induction writeFrameLoop escaped written m h with
  | case1 written h more ended =>
    rw [writeFrameLoop_eq, if_pos more, ended]
    rfl
  | case2 written h more n h₁ wrote ih =>
    rw [writeFrameLoop_eq, if_pos more, wrote]
    exact ih
  | case3 written h more h₁ interrupted ih =>
    rw [writeFrameLoop_eq, if_pos more, interrupted]
    exact ih.trans (if_pos rfl).symm
  | case4 written h more e h₁ failed other blocked =>
    rw [writeFrameLoop_eq, if_pos more, failed]
    refine Eq.trans ?_ ((if_neg other).trans (if_pos blocked)).symm
    rw [← contents_buffered]
    rfl
  | case5 written h more e h₁ failed other notBlocked =>
    rw [writeFrameLoop_eq, if_pos more, failed]
    exact ((if_neg other).trans (if_neg notBlocked)).symm
  | case6 written h done =>
    rw [writeFrameLoop_eq, if_neg done]
    rfl

/-- The lengths are those of the arrays at most. -/
structure Fits (m : Memory) : Prop where
  read : m.readBufLen ≤ frameBufSize
  write : m.writeBufLen ≤ frameBufSize

theorem fits_new (readBuf writeBuf : Buffer UInt8) : (new readBuf writeBuf).Fits :=
  ⟨Nat.zero_le _, Nat.zero_le _⟩

theorem Fits.consume {m : Memory} (fits : m.Fits) (i : Nat) (started : Bool) :
    (m.consume i started).after.Fits :=
  ⟨Nat.le_trans (Nat.sub_le m.readBufLen (i + 1)) fits.read, fits.write⟩

theorem Fits.nextFrameLoop {m : Memory} (fits : m.Fits) (i : Nat) (errno : Errno) :
    (m.nextFrameLoop i errno).memory.Fits := by
  fun_induction Memory.nextFrameLoop i m errno with
  | case1 i m errno small isStart ih => exact ih (fits.consume i true)
  | case2 i m errno small notStart isEnd frame valid => exact fits.consume i false
  | case3 i m errno small notStart isEnd isInvalid ih => exact ih (fits.consume i false)
  | case4 i m errno small notStart notEnd ih => exact ih fits
  | case5 i m errno done full => exact ⟨Nat.zero_le _, fits.write⟩
  | case6 i m errno done room => exact fits

theorem Fits.flushWrite {m m' : Memory} (fits : m.Fits) {h h' : Host} {result : Int}
    (run : m.flushWrite h = some (result, m', h')) : m'.Fits := by
  unfold Memory.flushWrite at run
  fun_induction flushWriteLoop 0 m h with
  | case1 => cases run
  | case2 h more n h₁ wrote ih => exact ih run
  | case3 h more h₁ interrupted ih => exact ih run
  | case4 h more e h₁ failed other advanced => exact absurd advanced (Nat.lt_irrefl 0)
  | case5 h more e h₁ failed other unmoved =>
    cases run
    exact fits
  | case6 h done =>
    cases run
    exact ⟨fits.read, Nat.zero_le _⟩

/-- On the bytes in use a frame is written as by the connection, when the pending bytes fit. -/
theorem writeFrame_result {m : Memory} (fits : m.Fits) (heap : Heap) (h : Host) (frame : Frame) :
    (m.writeFrame heap h frame).result.map inUse = m.contents.writeFrame heap h frame := by
  have flushed := flushWrite_result m h
  unfold writeFrame FrameConn.writeFrame
  rw [← flushed]
  cases flush : m.flushWrite h with
  | none => rfl
  | some r =>
    obtain ⟨result, m', h'⟩ := r
    have room := sizeSub_of_room (fits.flushWrite flush).write
    simp only [Option.map_some, inUse, Option.bind_eq_bind, Option.bind_some]
    split
    · rfl
    · rcases escapeFrame heap frame h' with ⟨_ | escaped, h₂⟩
      · rfl
      · dsimp only
        rw [room, contents_writeBuf_length]
        split
        · rfl
        · exact writeFrameLoop_result escaped 0 m' h₂

/-! ## Runs -/

/-- A call of the frame connection. -/
inductive Call
  | readFrame
  | writeFrame (frame : Frame)
  | flushWrite
  deriving DecidableEq, Repr

def call (heap : Heap) (x : Memory × Host) : Call → Traced Access (Memory × Host)
  | .readFrame => do return (← x.1.readFrame x.2).2
  | .writeFrame frame => do return (← x.1.writeFrame heap x.2 frame).2
  | .flushWrite =>
    match x.1.flushWrite x.2 with
    | none => .stuck
    | some (_, m, h) => pure (m, h)

/-- A run: calls one after the other, as long as they return. -/
def run (heap : Heap) (calls : List Call) (x : Memory × Host) : Traced Access (Memory × Host) :=
  calls.foldlM (call heap) x

end Memory

end Libmdr.FrameConn
