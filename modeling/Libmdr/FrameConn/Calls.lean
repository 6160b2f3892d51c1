import Libmdr.FrameConn.Flushing

/-!
# The calls on the socket

Which `read` and `write` calls a function of `src/frameconn.c` makes, also when it does not
return with the outcomes listed. The calls follow the branches of the function, and each `write`
of one that returns has used an outcome.
-/

namespace Libmdr
set_option autoImplicit false

/-- A call on the socket. -/
inductive SocketCall
  | read (n : Nat)
  | write (bytes : List UInt8)
  deriving DecidableEq, Repr

namespace SocketCall

def IsWrite : SocketCall → Bool
  | .read _ => false
  | .write _ => true

/-- Some of the calls are calls of `write`. -/
def AnyWrite (calls : List SocketCall) : Prop := ∃ bytes, .write bytes ∈ calls

theorem anyWrite_append {calls calls' : List SocketCall} :
    AnyWrite (calls ++ calls') ↔ AnyWrite calls ∨ AnyWrite calls' := by
  simp only [AnyWrite, List.mem_append, exists_or]

theorem not_anyWrite_nil : ¬ AnyWrite [] := by
  rintro ⟨bytes, isIn⟩
  cases isIn

theorem anyWrite_cons (bytes : List UInt8) (calls : List SocketCall) :
    AnyWrite (.write bytes :: calls) := ⟨bytes, List.mem_cons_self⟩

/-- Whether `write` is called, said by counting. -/
theorem anyWrite_iff {calls : List SocketCall} : AnyWrite calls ↔ 0 < calls.countP IsWrite := by
  rw [List.countP_pos_iff]
  constructor
  · rintro ⟨bytes, isIn⟩
    exact ⟨.write bytes, isIn, rfl⟩
  · rintro ⟨call, isIn, isWrite⟩
    cases call with
    | read n => cases isWrite
    | write bytes => exact ⟨bytes, isIn⟩

end SocketCall

open SocketCall

/-- Each of the calls of `write` has used one of the outcomes. -/
def Host.Used (h h' : Host) (calls : List SocketCall) : Prop :=
  ∃ used : List WriteOutcome, h.writes = used ++ h'.writes ∧
    used.length = calls.countP SocketCall.IsWrite

namespace Host.Used

variable {h h₁ h₂ : Host} {calls calls' : List SocketCall}

/-- Without a call of `write` no outcome is used up. -/
theorem of_unwritten (same : h₁.writes = h.writes) (unwritten : ¬ AnyWrite calls) :
    h.Used h₁ calls := by
  rw [anyWrite_iff, Nat.not_lt, Nat.le_zero] at unwritten
  exact ⟨[], same.symm, unwritten.symm⟩

theorem of_same (same : h₁.writes = h.writes) : h.Used h₁ [] := of_unwritten same not_anyWrite_nil

/-- Calls one after the other use up the outcomes one after the other. -/
theorem trans (front : h.Used h₁ calls) (back : h₁.Used h₂ calls') :
    h.Used h₂ (calls ++ calls') := by
  obtain ⟨used, split, length⟩ := front
  obtain ⟨used', split', length'⟩ := back
  refine ⟨used ++ used', by rw [split, split', List.append_assoc], ?_⟩
  rw [List.length_append, length, length', List.countP_append]

/-- A call of `write` uses up the first outcome. -/
theorem write {bytes : List UInt8} {r : Except Errno Nat} (run : h.write bytes = some (r, h₁))
    (later : h₁.Used h₂ calls) : h.Used h₂ (.write bytes :: calls) := by
  obtain ⟨used, split, length⟩ := later
  obtain ⟨outcome, first⟩ : ∃ outcome, h.writes = outcome :: h₁.writes := by
    unfold Host.write at run
    split at run <;> cases run <;> rename_i first <;> exact ⟨_, first⟩
  refine ⟨outcome :: used, by rw [first, split, List.cons_append], ?_⟩
  rw [List.length_cons, length, List.countP_cons_of_pos rfl]

/-- The outcomes are the same ones exactly when `write` was not called. -/
theorem same_iff (used : h.Used h₁ calls) : h₁.writes = h.writes ↔ ¬ AnyWrite calls := by
  obtain ⟨outcomes, split, length⟩ := used
  rw [anyWrite_iff, ← length, split, Nat.not_lt, Nat.le_zero, List.length_eq_zero_iff]
  exact List.self_eq_append_left

end Host.Used

namespace FrameConn

/-! ## Writing -/

/-- The calls of the loop of `mdr_frameconn_flush_write`. -/
def flushWriteLoopCalls (i : Nat) (c : FrameConn) (h : Host) : List SocketCall :=
  if i < c.writeBuf.length then
    let call := .write (c.writeBuf.drop i)
    match _run : h.write (c.writeBuf.drop i) with
    | none => [call]
    | some (.ok _, h) => call :: flushWriteLoopCalls i c h
    | some (.error e, h) => if e = eintr then call :: flushWriteLoopCalls i c h else [call]
  else []
termination_by h.writes.length
decreasing_by all_goals exact Host.write_writes _run

/-- The calls of `mdr_frameconn_flush_write`. -/
def flushWriteCalls (c : FrameConn) (h : Host) : List SocketCall := flushWriteLoopCalls 0 c h

/-- The calls of the loop of `mdr_frameconn_write_frame`. -/
def writeFrameLoopCalls (escaped : List UInt8) (written : Nat) (h : Host) : List SocketCall :=
  if written < escaped.length then
    let call := .write (escaped.drop written)
    match _run : h.write (escaped.drop written) with
    | none => [call]
    | some (.ok n, h) => call :: writeFrameLoopCalls escaped (written + n) h
    | some (.error e, h) =>
      if e = eintr then call :: writeFrameLoopCalls escaped written h else [call]
  else []
termination_by h.writes.length
decreasing_by all_goals exact Host.write_writes _run

/-- The calls of `mdr_frameconn_write_frame`. -/
def writeFrameCalls (heap : Heap) (c : FrameConn) (h : Host) (frame : Frame) : List SocketCall :=
  flushWriteCalls c h ++
    match flushWrite c h with
    | none => []
    | some (result, c, h) =>
      if result < 0 ∧ ¬ (h.errno = eagain ∨ h.errno = einval) then []
      else
        match escapeFrame heap frame h with
        | (none, _) => []
        | (some escaped, h) =>
          if frameBufSize - c.writeBuf.length < escaped.length then []
          else writeFrameLoopCalls escaped 0 h

section Writing

variable {heap : Heap} {i written : Nat} {escaped : List UInt8} {c c' : FrameConn} {h h' : Host}
  {frame : Frame} {result : Int}

/-- Flushing calls `write` when bytes are pending. -/
theorem anyWrite_flushWriteLoopCalls :
    AnyWrite (flushWriteLoopCalls i c h) ↔ i < c.writeBuf.length := by
  fun_cases flushWriteLoopCalls i c h with
  | case1 more => exact iff_of_true (anyWrite_cons _ _) more
  | case2 more => exact iff_of_true (anyWrite_cons _ _) more
  | case3 more => exact iff_of_true (anyWrite_cons _ _) more
  | case4 more => exact iff_of_true (anyWrite_cons _ _) more
  | case5 done => exact iff_of_false not_anyWrite_nil done

/-- The loop calls `write` when bytes of the frame are left. -/
theorem anyWrite_writeFrameLoopCalls :
    AnyWrite (writeFrameLoopCalls escaped written h) ↔ written < escaped.length := by
  fun_cases writeFrameLoopCalls escaped written h with
  | case1 more => exact iff_of_true (anyWrite_cons _ _) more
  | case2 more => exact iff_of_true (anyWrite_cons _ _) more
  | case3 more => exact iff_of_true (anyWrite_cons _ _) more
  | case4 more => exact iff_of_true (anyWrite_cons _ _) more
  | case5 done => exact iff_of_false not_anyWrite_nil done

/-- The calls that were listed are the calls that were made. The induction is on the outcomes. -/
theorem flushWriteLoop_used (run : flushWriteLoop i c h = some (result, c', h')) :
    h.Used h' (flushWriteLoopCalls i c h) := by
  fun_induction flushWriteLoopCalls i c h with
  | case1 h more _ ended =>
    rw [flushWriteLoop_eq, if_pos more, ended] at run
    cases run
  | case2 h more _ n h₁ wrote ih =>
    rw [flushWriteLoop_eq, if_pos more, wrote] at run
    exact .write wrote (ih run)
  | case3 h more _ h₁ interrupted ih =>
    rw [flushWriteLoop_eq, if_pos more, interrupted] at run
    exact .write interrupted (ih run)
  | case4 h more _ e h₁ failed other =>
    rw [flushWriteLoop_eq, if_pos more, failed] at run
    simp only [if_neg other] at run
    refine .write failed (.of_same ?_)
    split at run <;> cases run <;> rfl
  | case5 h done =>
    rw [flushWriteLoop_eq, if_neg done] at run
    cases run
    exact .of_same rfl

theorem writeFrameLoop_used (run : writeFrameLoop escaped written c h = some (result, c', h')) :
    h.Used h' (writeFrameLoopCalls escaped written h) := by
  fun_induction writeFrameLoopCalls escaped written h with
  | case1 written h more _ ended =>
    rw [writeFrameLoop_eq, if_pos more, ended] at run
    cases run
  | case2 written h more _ n h₁ wrote ih =>
    rw [writeFrameLoop_eq, if_pos more, wrote] at run
    exact .write wrote (ih run)
  | case3 written h more _ h₁ interrupted ih =>
    rw [writeFrameLoop_eq, if_pos more, interrupted] at run
    exact .write interrupted (ih run)
  | case4 written h more _ e h₁ failed other =>
    rw [writeFrameLoop_eq, if_pos more, failed] at run
    simp only [if_neg other] at run
    refine .write failed (.of_same ?_)
    split at run <;> cases run <;> rfl
  | case5 written h done =>
    rw [writeFrameLoop_eq, if_neg done] at run
    cases run
    exact .of_same rfl

/-- The two loops and the allocation between them. -/
theorem writeFrame_used (run : writeFrame heap c h frame = some (result, c', h')) :
    h.Used h' (writeFrameCalls heap c h frame) := by
  simp only [writeFrame, Option.bind_eq_bind, Option.bind_eq_some_iff] at run
  obtain ⟨⟨flushed, c₁, h₁⟩, flush, run⟩ := run
  simp only [writeFrameCalls, flush]
  refine (flushWriteLoop_used flush).trans ?_
  dsimp only at run
  split at run <;> rename_i ends
  · cases run
    rw [if_pos ends]
    exact .of_same rfl
  rw [if_neg ends]
  rcases escapes : escapeFrame heap frame h₁ with ⟨_ | escaped, h₂⟩ <;>
    have alone := (escapeFrame_onlyAllocates escapes).writes <;> rw [escapes] at run <;>
    dsimp only at run ⊢
  · cases run
    exact .of_same alone
  split at run <;> rename_i room
  · cases run
    rw [if_pos room]
    exact .of_same alone
  · rw [if_neg room]
    obtain ⟨used, split, length⟩ := writeFrameLoop_used run
    exact ⟨used, by rw [← alone, split], length⟩

/-- `mdr_frameconn_write_frame` calls `write`: for the pending bytes, or for the frame. -/
def CallsWrite (heap : Heap) (c : FrameConn) (h : Host) (frame : Frame) : Prop :=
  c.writeBuf ≠ [] ∨ Tried heap c h frame

/-- **When writing a frame calls `write`.** The right side names no call. -/
theorem anyWrite_writeFrameCalls :
    AnyWrite (writeFrameCalls heap c h frame) ↔ CallsWrite heap c h frame := by
  unfold CallsWrite writeFrameCalls
  rw [anyWrite_append, flushWriteCalls, anyWrite_flushWriteLoopCalls, List.length_pos_iff]
  by_cases pending : c.writeBuf ≠ []
  · exact iff_of_true (.inl pending) (.inl pending)
  rw [or_iff_right pending, or_iff_right pending, flushWrite_empty (not_not.mp pending)]
  simp only [Int.lt_irrefl, false_and, if_false]
  rcases escapes : escapeFrame heap frame h with ⟨_ | bytes, h₁⟩
  · exact iff_of_false not_anyWrite_nil fun tried => by simpa [escapes] using tried.1
  obtain rfl := escapeFrame_out escapes
  simp only
  split <;> rename_i room
  · refine iff_of_false not_anyWrite_nil fun tried => Nat.not_le.mpr room ?_
    exact tried.2
  · rw [anyWrite_writeFrameLoopCalls]
    refine iff_of_true (List.length_pos_iff.mpr (escaped_ne_nil frame)) ⟨?_, Nat.not_lt.mp room⟩
    rw [escapes]
    rfl

theorem read_not_mem_flushWriteLoopCalls (n : Nat) : .read n ∉ flushWriteLoopCalls i c h := by
  fun_induction flushWriteLoopCalls i c h <;> simp_all

theorem read_not_mem_writeFrameLoopCalls (n : Nat) :
    .read n ∉ writeFrameLoopCalls escaped written h := by
  fun_induction writeFrameLoopCalls escaped written h <;> simp_all

theorem read_not_mem_writeFrameCalls (n : Nat) : .read n ∉ writeFrameCalls heap c h frame := by
  unfold writeFrameCalls
  rw [List.mem_append, not_or]
  refine ⟨read_not_mem_flushWriteLoopCalls n, ?_⟩
  split
  · exact List.not_mem_nil
  split
  · exact List.not_mem_nil
  split
  · exact List.not_mem_nil
  split
  · exact List.not_mem_nil
  · exact read_not_mem_writeFrameLoopCalls n

end Writing

/-! ## Reading -/

/-- The calls at the label `read_bytes`. -/
def readBytesCalls (h : Host) (n : Nat) : List SocketCall :=
  match _run : h.read n with
  | some (.error e, h) => if e = eintr then .read n :: readBytesCalls h n else [.read n]
  | _ => [.read n]
termination_by h.reads.length
decreasing_by exact Host.read_error_reads _run

/-- The calls of `mdr_frameconn_read_frame`. -/
def readFrameCalls (c : FrameConn) (h : Host) : List SocketCall :=
  match _scanned : nextFrame c h.errno with
  | (some _, _, _) => []
  | (none, c, errno) =>
    if errno ≠ 0 then []
    else
      let calls := readBytesCalls { h with errno } (frameBufSize - c.readBuf.length)
      match _run : readBytes { h with errno } (frameBufSize - c.readBuf.length) with
      | some (.ok bytes, h) => calls ++ readFrameCalls { c with readBuf := c.readBuf ++ bytes } h
      | _ => calls
termination_by h.pendingReads
decreasing_by
  have room := (nextFrameLoop_room _ _ _ _scanned).1
  exact (readBytes_pendingReads (by omega) _run : _)

theorem not_anyWrite_readBytesCalls (h : Host) (n : Nat) : ¬ AnyWrite (readBytesCalls h n) := by
  rintro ⟨bytes, isIn⟩
  fun_induction readBytesCalls h n <;> simp_all

/-- Reading a frame calls `read` only. -/
theorem not_anyWrite_readFrameCalls (c : FrameConn) (h : Host) :
    ¬ AnyWrite (readFrameCalls c h) := by
  fun_induction readFrameCalls c h with
  | case1 => exact not_anyWrite_nil
  | case2 => exact not_anyWrite_nil
  | case3 c h c₁ errno scanned noError calls bytes h₁ first ih =>
    rw [anyWrite_append, not_or]
    exact ⟨not_anyWrite_readBytesCalls _ _, ih⟩
  | case4 => exact not_anyWrite_readBytesCalls _ _

section Reading

variable {c c' : FrameConn} {h h' : Host}

theorem readBytes_writes {n : Nat} {r : Except Errno (List UInt8)}
    (run : readBytes h n = some (r, h')) : h'.writes = h.writes := by
  have read {h₁ h₂ : Host} {r : Except Errno (List UInt8)} (run : h₁.read n = some (r, h₂)) :
      h₂.writes = h₁.writes := by
    unfold Host.read at run
    split at run <;> cases run <;> rfl
  fun_induction readBytes h n with
  | case1 => cases run
  | case2 h h₁ first ih => exact (ih run).trans (read first)
  | case3 h e h₁ first =>
    cases run
    exact read first
  | case4 h bytes h₁ first =>
    cases run
    exact read first

theorem readFrame_writes {frame : Option Frame} (run : c.readFrame h = some (frame, c', h')) :
    h'.writes = h.writes := by
  fun_induction readFrame c h with
  | case1 =>
    cases run
    rfl
  | case2 =>
    cases run
    rfl
  | case3 => cases run
  | case4 c h c₁ errno scanned noError e h₁ first =>
    cases run
    have kept := readBytes_writes first
    exact kept
  | case5 c h c₁ errno scanned noError bytes h₁ first ih =>
    have kept := readBytes_writes first
    exact (ih run).trans kept

/-- So no outcome of `write` is used up by reading. -/
theorem readFrame_used {frame : Option Frame} (run : c.readFrame h = some (frame, c', h')) :
    h.Used h' (readFrameCalls c h) :=
  .of_unwritten (readFrame_writes run) (not_anyWrite_readFrameCalls c h)

end Reading

end FrameConn

end Libmdr
