import Libmdr.FrameConn.Memory

/-!
# The buffers of a frame connection

Every `read` is asked for what fits, and what a blocked `write` leaves over fits where it is
copied, in any run. The moves of the scanner take two bytes too many, which lie behind the
array when it is full or has room for one byte only.
-/

namespace Libmdr.FrameConn
set_option autoImplicit false

/-! ## Lengths -/

/-- The lengths fit, `read` is asked for one byte at least and for the free space at most, and
`memcpy` ends inside the array. -/
def Access.Within : Access → Prop
  | .scan m _ => m.Fits
  | .read m n => m.Fits ∧ 1 ≤ n ∧ m.readBufLen + n ≤ frameBufSize
  | .memcpy m n => m.Fits ∧ m.writeBufLen + n ≤ frameBufSize

/-- An access that is `Within`; the moves of a scan are those of `mdr_frameconn_next_frame`. -/
structure Access.Sound (access : Access) : Prop where
  within : access.Within
  moves : ∀ m moves, access = .scan m moves → ∃ errno, moves = (m.nextFrame errno).moves

namespace Memory

variable {m : Memory}

theorem Fits.sound_read (fits : m.Fits) (room : m.readBufLen < frameBufSize) :
    (Access.read m (sizeSub frameBufSize m.readBufLen)).Sound where
  within := by
    rw [sizeSub_of_room (Nat.le_of_lt room)]
    exact ⟨fits, by omega, by omega⟩
  moves := fun _ _ isScan => by cases isScan

theorem Fits.sound_memcpy (fits : m.Fits) {n : Nat} (room : m.writeBufLen + n ≤ frameBufSize) :
    (Access.memcpy m n).Sound where
  within := ⟨fits, room⟩
  moves := fun _ _ isScan => by cases isScan

theorem Fits.sound_scan {moves : List Move} {frame : Option Frame} {m' : Memory}
    {errno errno' : Errno} (fits : m.Fits) (scanned : m.nextFrame errno = ⟨moves, frame, m', errno'⟩) :
    (Access.scan m moves).Sound where
  within := fits
  moves := fun _ _ isScan => by
    cases isScan
    exact ⟨errno, by rw [scanned]⟩

theorem Fits.scanned {moves : List Move} {frame : Option Frame} {m' : Memory}
    {errno errno' : Errno} (fits : m.Fits) (scanned : m.nextFrame errno = ⟨moves, frame, m', errno'⟩) :
    m'.Fits := by
  have fits' := fits.nextFrameLoop 0 errno
  rwa [← nextFrame, scanned] at fits'

theorem Fits.readBytes_safe (fits : m.Fits) (room : m.readBufLen < frameBufSize) (h : Host) :
    (m.readBytes h).Safe Access.Sound fun r =>
      ∀ bytes, r.1 = .ok bytes → (m.received bytes).Fits := by
  have size := sizeSub_of_room (Nat.le_of_lt room)
  have sound := List.forall_mem_singleton.mpr (fits.sound_read room)
  fun_induction Memory.readBytes m h with
  | case1 h n ended => exact .after sound .of_stuck
  | case2 h n h₁ first ih => exact .after sound ih
  | case3 h n e h₁ first other =>
    exact .after sound (.of_pure fun bytes isOk => by cases isOk)
  | case4 h n bytes h₁ first =>
    refine .after sound (.of_pure fun bytes' isOk => ?_)
    cases isOk
    have fewer : bytes.length ≤ sizeSub frameBufSize m.readBufLen := (Host.read_ok first).1
    rw [size] at fewer
    have filled : m.readBufLen + bytes.length ≤ frameBufSize := by omega
    exact ⟨filled, fits.write⟩

/-- The `read` behind a scan that finds no frame. -/
theorem Fits.scan_read {moves : List Move} {m' : Memory} {errno errno' : Errno} (fits : m.Fits)
    (scanned : m.nextFrame errno = ⟨moves, none, m', errno'⟩) {h : Host} {reads : List Access}
    {r : Option (Except Errno (List UInt8) × Host)} (run : m'.readBytes h = ⟨reads, r⟩) :
    (∀ access ∈ Access.scan m moves :: reads, access.Sound) ∧
      ∀ bytes h', r = some (.ok bytes, h') → (m'.received bytes).Fits := by
  have safe := (fits.scanned scanned).readBytes_safe (nextFrame_room scanned).1 h
  rw [run] at safe
  exact ⟨List.forall_mem_cons.mpr ⟨fits.sound_scan scanned, safe.events⟩,
    fun bytes h' returns => safe.result _ returns bytes rfl⟩

theorem Fits.readFrame_safe (fits : m.Fits) (h : Host) :
    (m.readFrame h).Safe Access.Sound fun r => r.2.1.Fits := by
  fun_induction Memory.readFrame m h with
  | case1 m h moves frame m' errno scanned =>
    exact .after (List.forall_mem_singleton.mpr (fits.sound_scan scanned))
      (.of_pure (fits.scanned scanned))
  | case2 m h moves m' errno scanned failed =>
    exact absurd (nextFrame_room scanned).2 failed
  | case3 m h moves m' errno scanned zero reads run =>
    exact .after (fits.scan_read scanned run).1 .of_stuck
  | case4 m h moves m' errno scanned zero reads e h' run =>
    exact .after (fits.scan_read scanned run).1 (.of_pure (fits.scanned scanned))
  | case5 m h moves m' errno scanned zero reads bytes h' run ih =>
    obtain ⟨sound, fits'⟩ := fits.scan_read scanned run
    exact .after sound (ih (fits' bytes h' rfl))

theorem Fits.writeFrameLoop_safe (fits : m.Fits) {escaped : List UInt8}
    (room : m.writeBufLen + escaped.length ≤ frameBufSize) (written : Nat) (h : Host) :
    (m.writeFrameLoop escaped written h).Safe Access.Sound fun r => r.2.1.Fits := by
  fun_induction Memory.writeFrameLoop escaped written m h with
  | case1 => exact .of_stuck
  | case2 written h more n h₁ wrote ih => exact ih
  | case3 written h more h₁ interrupted ih => exact ih
  | case4 written h more e h₁ failed other blocked =>
    refine .after (List.forall_mem_singleton.mpr (fits.sound_memcpy (by omega))) (.of_pure ?_)
    have filled : m.writeBufLen + (escaped.drop written).length ≤ frameBufSize := by
      rw [List.length_drop]
      omega
    exact ⟨fits.read, filled⟩
  | case5 => exact .of_pure fits
  | case6 => exact .of_pure fits

theorem Fits.writeFrame_safe (fits : m.Fits) (heap : Heap) (h : Host) (frame : Frame) :
    (m.writeFrame heap h frame).Safe Access.Sound fun r => r.2.1.Fits := by
  unfold Memory.writeFrame
  cases flush : m.flushWrite h with
  | none => exact .of_stuck
  | some r =>
    obtain ⟨result, m', h'⟩ := r
    have fits' := fits.flushWrite flush
    dsimp only
    split
    · exact .of_pure fits'
    · rcases escapeFrame heap frame h' with ⟨_ | escaped, h₂⟩
      · exact .of_pure fits'
      · dsimp only
        rw [sizeSub_of_room fits'.write]
        split
        · exact .of_pure fits'
        · rename_i room
          have filled := fits'.write
          exact fits'.writeFrameLoop_safe (by omega) 0 h₂

theorem Fits.call_safe {x : Memory × Host} (fits : x.1.Fits) (heap : Heap) (c : Call) :
    (call heap x c).Safe Access.Sound fun y => y.1.Fits := by
  cases c with
  | readFrame => exact (fits.readFrame_safe x.2).bind fun _ fits' => .of_pure fits'
  | writeFrame frame =>
    exact (fits.writeFrame_safe heap x.2 frame).bind fun _ fits' => .of_pure fits'
  | flushWrite =>
    unfold call
    cases flush : x.1.flushWrite x.2 with
    | none => exact .of_stuck
    | some r => exact .of_pure (fits.flushWrite flush)

theorem run_safe (heap : Heap) (readBuf writeBuf : Buffer UInt8) (calls : List Call) (h : Host) :
    (run heap calls (new readBuf writeBuf, h)).Safe Access.Sound fun x => x.1.Fits :=
  Traced.Safe.foldlM (fun _ c fits => Fits.call_safe fits heap c) (fits_new readBuf writeBuf) calls

/-- **The lengths stay in their arrays, whatever the calls and the socket.** -/
theorem run_within (heap : Heap) (readBuf writeBuf : Buffer UInt8) (calls : List Call) (h : Host) :
    (∀ access ∈ (run heap calls (new readBuf writeBuf, h)).events, access.Within) ∧
      ∀ m h', (run heap calls (new readBuf writeBuf, h)).result = some (m, h') → m.Fits := by
  have safe := run_safe heap readBuf writeBuf calls h
  exact ⟨fun access isIn => (safe.events access isIn).within,
    fun m h' returns => safe.result (m, h') returns⟩

end Memory

/-! ## Moves -/

/-- A move that reads and writes inside the array, and leaves at its front the bytes behind the
delimiter. -/
structure Move.Right (move : Move) : Prop where
  inBounds : ∀ k < move.length, move.index + 1 + k < frameBufSize ∧ k < frameBufSize
  keeps : move.after.contents.readBuf = move.before.contents.readBuf.drop (move.index + 1)

namespace Memory

variable {m : Memory}

/-- The scan stops at index `j` for a move. -/
def Takes (m : Memory) (j : Nat) : Prop :=
  m.readBuf j = frameStartByte ∨ m.readBuf j = frameEndByte ∧ m.readStarted = true

/-- The two bytes behind those in use are in the array, or no byte makes the scan move. -/
def HasMargin (m : Memory) : Prop :=
  m.readBufLen + 2 ≤ frameBufSize ∨ ∀ j < m.readBufLen, ¬ m.Takes j

theorem consume_keeps (m : Memory) (i : Nat) (started : Bool) :
    (m.consume i started).after.contents.readBuf = m.contents.readBuf.drop (i + 1) :=
  congrArg FrameConn.readBuf (m.contents_consume i started)

/-- A move takes one byte too many behind the delimiter, and one for the delimiter. -/
theorem consume_right_iff {i : Nat} (small : i < m.readBufLen) (started : Bool) :
    (m.consume i started).Right ↔ m.readBufLen + 2 ≤ frameBufSize := by
  constructor
  · intro right
    have last : i + 1 + (m.readBufLen - i) < frameBufSize :=
      (right.inBounds (m.readBufLen - i) (Nat.lt_succ_self _)).1
    omega
  · intro margin
    refine ⟨fun k within => ?_, m.consume_keeps i started⟩
    have within' : k < m.readBufLen - i + 1 := within
    change i + 1 + k < frameBufSize ∧ k < frameBufSize
    omega

/-- Where there is a margin it grows with each move. -/
theorem nextFrameLoop_right (i : Nat) (errno : Errno) (margin : m.readBufLen + 2 ≤ frameBufSize) :
    ∀ move ∈ (m.nextFrameLoop i errno).moves, move.Right := by
  fun_induction Memory.nextFrameLoop i m errno with
  | case1 i m errno small isStart ih =>
    have shorter : (m.consume i true).after.readBufLen ≤ m.readBufLen := Nat.sub_le _ _
    exact List.forall_mem_cons.mpr ⟨(consume_right_iff small true).mpr margin, ih (by omega)⟩
  | case2 i m errno small notStart isEnd frame valid =>
    exact List.forall_mem_singleton.mpr ((consume_right_iff small false).mpr margin)
  | case3 i m errno small notStart isEnd isInvalid ih =>
    have shorter : (m.consume i false).after.readBufLen ≤ m.readBufLen := Nat.sub_le _ _
    exact List.forall_mem_cons.mpr ⟨(consume_right_iff small false).mpr margin, ih (by omega)⟩
  | case4 i m errno small notStart notEnd ih => exact ih margin
  | case5 => exact List.forall_mem_nil _
  | case6 => exact List.forall_mem_nil _

/-- The first move is at the first byte that the scan takes. -/
theorem nextFrameLoop_moves (i : Nat) (m : Memory) (errno : Errno) :
    ((m.nextFrameLoop i errno).moves = [] ∧ ∀ j < m.readBufLen, i ≤ j → ¬ m.Takes j) ∨
      ∃ j started rest, j < m.readBufLen ∧ m.Takes j ∧
        (m.nextFrameLoop i errno).moves = m.consume j started :: rest := by
  fun_induction Memory.nextFrameLoop i m errno with
  | case1 i m errno small isStart ih => exact .inr ⟨i, true, _, small, .inl isStart, rfl⟩
  | case2 i m errno small notStart isEnd frame valid =>
    exact .inr ⟨i, false, _, small, .inr isEnd, rfl⟩
  | case3 i m errno small notStart isEnd isInvalid ih =>
    exact .inr ⟨i, false, _, small, .inr isEnd, rfl⟩
  | case4 i m errno small notStart notEnd ih =>
    rcases ih with ⟨nil, later⟩ | moves
    · refine .inl ⟨nil, fun j small' behind => ?_⟩
      rcases Nat.eq_or_lt_of_le behind with rfl | behind
      · exact not_or.mpr ⟨notStart, notEnd⟩
      · exact later j small' behind
    · exact .inr moves
  | case5 i m errno done full =>
    exact .inl ⟨rfl, fun j small behind => absurd (Nat.lt_of_le_of_lt behind small) done⟩
  | case6 i m errno done room =>
    exact .inl ⟨rfl, fun j small behind => absurd (Nat.lt_of_le_of_lt behind small) done⟩

theorem nextFrame_right_iff (m : Memory) (errno : Errno) :
    (∀ move ∈ (m.nextFrame errno).moves, move.Right) ↔ m.HasMargin := by
  constructor
  · intro right
    rcases nextFrameLoop_moves 0 m errno with ⟨_, none⟩ | ⟨j, started, rest, small, takes, moves⟩
    · exact .inr fun j small => none j small (Nat.zero_le j)
    · have first := right (m.consume j started) (by rw [nextFrame, moves]; exact .head _)
      exact .inl ((consume_right_iff small started).mp first)
  · rintro (margin | none)
    · exact nextFrameLoop_right 0 errno margin
    · rcases nextFrameLoop_moves 0 m errno with ⟨nil, _⟩ | ⟨j, started, rest, small, takes, moves⟩
      · rw [nextFrame, nil]
        exact List.forall_mem_nil _
      · exact absurd takes (none j small)

theorem scan_mem_readFrame (m : Memory) (h : Host) :
    .scan m (m.nextFrame h.errno).moves ∈ (m.readFrame h).events := by
  fun_cases Memory.readFrame m h with
  | case1 moves frame m' errno scanned =>
    rw [scanned]
    exact List.mem_cons_self
  | case2 moves m' errno scanned failed =>
    rw [scanned]
    exact List.mem_cons_self
  | case3 moves m' errno scanned zero reads run =>
    rw [scanned]
    exact List.mem_cons_self
  | case4 moves m' errno scanned zero reads e h' run =>
    rw [scanned]
    exact List.mem_cons_self
  | case5 moves m' errno scanned zero reads bytes h' run =>
    rw [scanned]
    exact List.mem_cons_self

/-- Bytes that arrive behind a scan that finds no frame are scanned. -/
theorem scan_mem_of_nothing {m m' : Memory} {h h' : Host} {moves : List Move} {errno : Errno}
    {bytes : List UInt8} (scanned : m.nextFrame h.errno = ⟨moves, none, m', errno⟩)
    (arrive : (m'.readBytes { h with errno }).result = some (.ok bytes, h')) :
    .scan (m'.received bytes) ((m'.received bytes).nextFrame h'.errno).moves ∈
      (m.readFrame h).events := by
  fun_cases Memory.readFrame m h with
  | case1 moves₁ frame m₁ errno₁ scanned₁ => cases scanned.symm.trans scanned₁
  | case2 moves₁ m₁ errno₁ scanned₁ failed =>
    exact absurd (nextFrame_room scanned₁).2 failed
  | case3 moves₁ m₁ errno₁ scanned₁ zero reads run =>
    cases scanned.symm.trans scanned₁
    rw [run] at arrive
    cases arrive
  | case4 moves₁ m₁ errno₁ scanned₁ zero reads e h₁ run =>
    cases scanned.symm.trans scanned₁
    rw [run] at arrive
    cases arrive
  | case5 moves₁ m₁ errno₁ scanned₁ zero reads bytes₁ h₁ run =>
    cases scanned.symm.trans scanned₁
    rw [run] at arrive
    cases arrive
    exact List.mem_append_right _ (scan_mem_readFrame _ h')

/-- The bytes that arrive first are scanned together when they fit. -/
theorem scan_mem_run (heap : Heap) (readBuf writeBuf : Buffer UInt8) {bytes : List UInt8}
    (fit : bytes.length ≤ frameBufSize) {h : Host} {rest : List ReadOutcome}
    (arrive : h.reads = .data bytes :: rest) :
    .scan ((new readBuf writeBuf).received bytes)
        (((new readBuf writeBuf).received bytes).nextFrame 0).moves ∈
      (run heap [.readFrame] (new readBuf writeBuf, h)).events := by
  have scanned : (new readBuf writeBuf).nextFrame h.errno = ⟨[], none, new readBuf writeBuf, 0⟩ := by
    rw [nextFrame, nextFrameLoop]
    rfl
  have first : Host.read { h with errno := 0 } frameBufSize =
      some (.ok bytes, { h with errno := 0, reads := rest, got := h.got ++ [bytes] }) := by
    simp only [Host.read, arrive, List.take_of_length_le fit, if_pos fit]
  have read : ((new readBuf writeBuf).readBytes { h with errno := 0 }).result =
      some (.ok bytes, { h with errno := 0, reads := rest, got := h.got ++ [bytes] }) := by
    have size : sizeSub frameBufSize (new readBuf writeBuf).readBufLen = frameBufSize :=
      sizeSub_of_room (Nat.zero_le _)
    rw [readBytes_result, size, readBytes_eq, first]
  exact Traced.mem_bind (Traced.mem_bind (scan_mem_of_nothing scanned read) _) _

/-- **The moves of a scan stay in the array exactly when it has a margin**, in any run. -/
theorem run_right_iff (heap : Heap) (readBuf writeBuf : Buffer UInt8) (calls : List Call) (h : Host)
    (moves : List Move)
    (isScan : .scan m moves ∈ (run heap calls (new readBuf writeBuf, h)).events) :
    (∀ move ∈ moves, move.Right) ↔ m.HasMargin := by
  have safe := run_safe heap readBuf writeBuf calls h
  obtain ⟨errno, rfl⟩ := (safe.events _ isScan).moves m moves rfl
  exact m.nextFrame_right_iff errno

/-- Two bytes that arrive first. -/
theorem run_right_iff_two_bytes :
    let readBuf : Buffer UInt8 := fun _ => 0
    let h : Host :=
      { errno := 0, reads := [.data [frameStartByte, 0x01]], writes := [], mallocs := 0
        wire := [], got := [] }
    let m := (new readBuf readBuf).received [frameStartByte, 0x01]
    .scan m (m.nextFrame 0).moves ∈
        (run (fun _ => some []) [.readFrame] (new readBuf readBuf, h)).events ∧
      ((∀ move ∈ (m.nextFrame 0).moves, move.Right) ↔ m.HasMargin) := by
  intro readBuf h m
  have fit : [frameStartByte, 0x01].length ≤ frameBufSize := by decide
  have isScan := scan_mem_run (fun _ => some []) readBuf readBuf fit (h := h) rfl
  exact ⟨isScan, run_right_iff _ _ _ _ _ _ isScan⟩

/-- A first `read` that fills the buffer, with a start byte in front. -/
theorem not_run_right :
    ¬ ∀ (heap : Heap) (readBuf writeBuf : Buffer UInt8) (calls : List Call) (h : Host) (m : Memory)
      (moves : List Move), .scan m moves ∈ (run heap calls (new readBuf writeBuf, h)).events →
        ∀ move ∈ moves, move.Right := by
  intro right
  let zeros : Buffer UInt8 := fun _ => 0
  let bytes := frameStartByte :: List.replicate 8191 0
  have length : bytes.length = frameBufSize := by
    rw [List.length_cons, List.length_replicate]
    rfl
  have isScan := scan_mem_run (fun _ => some []) zeros zeros (Nat.le_of_eq length)
    (h := { errno := 0, reads := [.data bytes], writes := [], mallocs := 0, wire := [], got := [] })
    rfl
  have filled : ((new zeros zeros).received bytes).readBufLen = frameBufSize :=
    (Nat.zero_add _).trans length
  rcases (nextFrame_right_iff _ 0).mp (right _ _ _ _ _ _ _ isScan) with margin | none
  · rw [filled] at margin
    exact absurd margin (by decide)
  · exact none 0 (by rw [filled]; decide) (.inl rfl)

end Memory

end Libmdr.FrameConn
