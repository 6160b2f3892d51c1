import Libmdr.FrameConn.Writing

/-!
# A write that blocks

`mdr_frameconn_write_frame` flushes the write buffer, escapes the frame and then
writes it. The socket may accept a part of the bytes and block at any point. This
file says, from the outcomes of the `write` calls alone, what becomes of the
frame: which of its bytes the socket has, which are put behind the pending ones,
and what the return code tells about it.

The return code is the subject of the first half. A write that blocks inside the
frame buffers the rest of it and still returns -1 with EAGAIN, as does a frame
that was not touched at all. The second half is about the order on the wire: the
frame is written directly although older bytes are still waiting.
-/

namespace Libmdr
set_option autoImplicit false

namespace Host

/-- The outcomes left once a flush of some pending bytes is over and the frame is
next. The flush offers the same bytes until `write` fails; only EAGAIN and EINVAL
let the call go on. -/
def afterFlush : List WriteOutcome → Option (Errno × List WriteOutcome)
  | [] => none
  | .wrote _ :: rest => afterFlush rest
  | .err e :: rest =>
    if e = eintr then afterFlush rest
    else if e = eagain ∨ e = einval then some (e, rest)
    else none

/-- Among the outcomes of writing `n` bytes a `write` blocks before all of them
are accepted. -/
def blocksWithin : Nat → List WriteOutcome → Bool
  | _, [] => false
  | n, .err e :: rest => if e = eintr then blocksWithin n rest else decide (0 < n ∧ e = eagain)
  | n, .wrote k :: rest => blocksWithin (n - k) rest

/-- The outcomes let a call that writes `n` bytes return. -/
def endsWithin : Nat → List WriteOutcome → Bool
  | 0, _ => true
  | _ + 1, [] => false
  | n + 1, .err e :: rest => if e = eintr then endsWithin (n + 1) rest else true
  | n + 1, .wrote k :: rest => endsWithin (n + 1 - k) rest

/-- A byte is accepted before `write` fails. -/
def acceptsFirst : List WriteOutcome → Bool
  | [] => false
  | .err e :: rest => if e = eintr then acceptsFirst rest else false
  | .wrote k :: rest => if k = 0 then acceptsFirst rest else true

theorem blocksWithin_zero (outcomes : List WriteOutcome) : blocksWithin 0 outcomes = false := by
  induction outcomes with
  | nil => rfl
  | cons outcome rest ih =>
    rcases outcome with k | e
    · rw [blocksWithin, Nat.zero_sub, ih]
    · simp [blocksWithin, ih]

theorem afterFlush_errno {e : Errno} {outcomes rest : List WriteOutcome}
    (after : afterFlush outcomes = some (e, rest)) : e = eagain ∨ e = einval := by
  fun_induction afterFlush outcomes with
  | case1 => cases after
  | case2 k outcomes ih => exact ih after
  | case3 outcomes ih => exact ih after
  | case4 e' outcomes other goesOn =>
    cases after
    exact goesOn
  | case5 => cases after

theorem endsWithin_of_blocksWithin {n : Nat} {outcomes : List WriteOutcome}
    (blocks : blocksWithin n outcomes = true) : endsWithin n outcomes = true := by
  induction outcomes generalizing n with
  | nil => cases blocks
  | cons outcome rest ih =>
    rcases n with - | n
    · rfl
    · rcases outcome with k | e
      · exact ih blocks
      · by_cases interrupted : e = eintr
        · simp only [blocksWithin, interrupted, if_true] at blocks
          simp only [endsWithin, interrupted, if_true]
          exact ih blocks
        · simp [endsWithin, interrupted]

/-- A successful `write` gives the socket the first bytes it is offered. -/
theorem write_ok {h h' : Host} {bytes : List UInt8} {n : Nat}
    (run : h.write bytes = some (.ok n, h')) :
    n ≤ bytes.length ∧ h'.wire = h.wire ++ bytes.take n ∧
      ∃ k, h.writes = .wrote k :: h'.writes ∧ n = min k bytes.length := by
  unfold Host.write at run
  split at run <;> cases run
  rename_i k rest writes
  refine ⟨Nat.min_le_right _ _, ?_, k, writes, rfl⟩
  rw [List.take_eq_take_min]

/-- A failed `write` gives the socket nothing. -/
theorem write_error {h h' : Host} {bytes : List UInt8} {e : Errno}
    (run : h.write bytes = some (.error e, h')) :
    h'.wire = h.wire ∧ h'.errno = e ∧ h.writes = .err e :: h'.writes := by
  unfold Host.write at run
  split at run <;> cases run
  rename_i rest writes
  exact ⟨rfl, rfl, writes⟩

theorem write_mallocs {h h' : Host} {bytes : List UInt8} {r : Except Errno Nat}
    (run : h.write bytes = some (r, h')) : h'.mallocs = h.mallocs := by
  unfold Host.write at run
  split at run <;> cases run <;> rfl

theorem write_eq_none {h : Host} {bytes : List UInt8} (run : h.write bytes = none) :
    h.writes = [] := by
  unfold Host.write at run
  split at run
  · assumption
  · cases run
  · cases run

end Host

namespace FrameConn

/-! ## What the loop does with the frame -/

/-- How the loop of `mdr_frameconn_write_frame` ends: the frame is written, a
`write` blocks and the rest is buffered, or `write` fails otherwise. -/
inductive FrameEnd (left : List UInt8) (c c' : FrameConn) (h' : Host) : Int → Prop
  | written (all : left = []) (same : c' = c) : FrameEnd left c c' h' 0
  | blocked (some : left ≠ []) (buffered : c' = { c with writeBuf := c.writeBuf ++ left })
      (errno : h'.errno = eagain) : FrameEnd left c c' h' (-1)
  | failed (some : left ≠ []) (same : c' = c) (errno : h'.errno ≠ eagain) :
      FrameEnd left c c' h' (-1)

/-- The loop gives the socket the next bytes of the frame, and ends in one of the
three ways with those that follow. -/
theorem writeFrameLoop_end {escaped : List UInt8} {written : Nat} {c c' : FrameConn} {h h' : Host}
    {result : Int} (run : writeFrameLoop escaped written c h = some (result, c', h')) :
    ∃ sent left, escaped.drop written = sent ++ left ∧ h'.wire = h.wire ++ sent ∧
      FrameEnd left c c' h' result := by
  fun_induction writeFrameLoop escaped written c h with
  | case1 => cases run
  | case2 written h more n h₁ wrote ih =>
    obtain ⟨sent, left, split, wire, ending⟩ := ih run
    obtain ⟨fits, wire₁, -⟩ := Host.write_ok wrote
    refine ⟨(escaped.drop written).take n ++ sent, left, ?_, ?_, ending⟩
    · rw [List.append_assoc, ← split, ← List.drop_drop, List.take_append_drop]
    · rw [wire, wire₁, List.append_assoc]
  | case3 written h more h₁ interrupted ih =>
    obtain ⟨sent, left, split, wire, ending⟩ := ih run
    exact ⟨sent, left, split, wire.trans (congrArg (· ++ sent) (Host.write_error interrupted).1),
      ending⟩
  | case4 written h more e h₁ failed other blocked =>
    cases run
    obtain ⟨wire, errno, -⟩ := Host.write_error failed
    refine ⟨[], escaped.drop written, rfl, by rw [wire, List.append_nil], .blocked ?_ rfl ?_⟩
    · rw [Ne, List.drop_eq_nil_iff]
      omega
    · rw [errno]
      exact blocked.elim id id
  | case5 written h more e h₁ failed other notBlocked =>
    cases run
    obtain ⟨wire, errno, -⟩ := Host.write_error failed
    refine ⟨[], escaped.drop written, rfl, by rw [wire, List.append_nil], .failed ?_ rfl ?_⟩
    · rw [Ne, List.drop_eq_nil_iff]
      omega
    · rw [errno]
      exact fun again => notBlocked (.inl again)
  | case6 written h done =>
    cases run
    refine ⟨[], [], ?_, (List.append_nil _).symm, .written rfl rfl⟩
    exact List.drop_eq_nil_iff.mpr (by omega)

/-- Whether the loop reports a block can be read off the outcomes. -/
theorem writeFrameLoop_blocks {escaped : List UInt8} {written : Nat} {c c' : FrameConn}
    {h h' : Host} {result : Int}
    (run : writeFrameLoop escaped written c h = some (result, c', h')) :
    Host.blocksWithin (escaped.length - written) h.writes = true ↔
      result = -1 ∧ h'.errno = eagain := by
  fun_induction writeFrameLoop escaped written c h with
  | case1 => cases run
  | case2 written h more n h₁ wrote ih =>
    obtain ⟨-, -, k, writes, rfl⟩ := Host.write_ok wrote
    rw [← ih run, writes, Host.blocksWithin, List.length_drop]
    have same : escaped.length - written - k =
        escaped.length - (written + min k (escaped.length - written)) := by omega
    rw [same]
  | case3 written h more h₁ interrupted ih =>
    rw [← ih run, (Host.write_error interrupted).2.2]
    simp [Host.blocksWithin]
  | case4 written h more e h₁ failed other blocked =>
    cases run
    obtain ⟨-, errno, writes⟩ := Host.write_error failed
    obtain rfl : e = eagain := blocked.elim id id
    have some : 0 < escaped.length - written := by omega
    simp [writes, errno, Host.blocksWithin, other, some]
  | case5 written h more e h₁ failed other notBlocked =>
    cases run
    obtain ⟨-, errno, writes⟩ := Host.write_error failed
    have notAgain : e ≠ eagain := fun again => notBlocked (.inl again)
    simp [writes, errno, Host.blocksWithin, other, notAgain]
  | case6 written h done =>
    cases run
    have none : escaped.length - written = 0 := by omega
    simp [none, Host.blocksWithin_zero]

/-- Whether the loop gives the socket a byte can be read off the outcomes. -/
theorem writeFrameLoop_accepts {escaped : List UInt8} {written : Nat} {c c' : FrameConn}
    {h h' : Host} {result : Int} (more : written < escaped.length)
    (run : writeFrameLoop escaped written c h = some (result, c', h')) :
    Host.acceptsFirst h.writes = true ↔ h'.wire ≠ h.wire := by
  fun_induction writeFrameLoop escaped written c h with
  | case1 => cases run
  | case2 written h more' n h₁ wrote ih =>
    obtain ⟨-, wire₁, k, writes, rfl⟩ := Host.write_ok wrote
    by_cases nothing : k = 0
    · rw [nothing, Nat.zero_min, List.take_zero, List.append_nil] at wire₁
      have later := ih (by rw [nothing]; omega) run
      rw [wire₁] at later
      simpa [writes, Host.acceptsFirst, nothing] using later
    · obtain ⟨sent, left, -, wire, -⟩ := writeFrameLoop_end run
      have taken : (escaped.drop written).take (min k (escaped.drop written).length) ≠ [] := by
        rw [Ne, List.take_eq_nil_iff, List.drop_eq_nil_iff, List.length_drop]
        omega
      rw [writes, Host.acceptsFirst, if_neg nothing, wire, wire₁, List.append_assoc]
      exact iff_of_true rfl fun same =>
        taken (List.append_eq_nil_iff.mp (List.append_right_eq_self.mp same)).1
  | case3 written h more' h₁ interrupted ih =>
    obtain ⟨wire, -, writes⟩ := Host.write_error interrupted
    have later := ih more run
    rw [wire] at later
    simpa [writes, Host.acceptsFirst] using later
  | case4 written h more' e h₁ failed other blocked =>
    cases run
    obtain ⟨wire, -, writes⟩ := Host.write_error failed
    simp [wire, writes, Host.acceptsFirst, other]
  | case5 written h more' e h₁ failed other notBlocked =>
    cases run
    obtain ⟨wire, -, writes⟩ := Host.write_error failed
    simp [wire, writes, Host.acceptsFirst, other]
  | case6 written h done => exact absurd more done

/-- The loop returns exactly when there are enough outcomes. -/
theorem writeFrameLoop_isSome (escaped : List UInt8) (written : Nat) (c : FrameConn) (h : Host) :
    (writeFrameLoop escaped written c h).isSome =
      Host.endsWithin (escaped.length - written) h.writes := by
  fun_induction writeFrameLoop escaped written c h with
  | case1 written h more ended =>
    obtain ⟨m, count⟩ := Nat.exists_eq_add_of_lt more
    rw [Host.write_eq_none ended, show escaped.length - written = m + 1 by omega]
    rfl
  | case2 written h more n h₁ wrote ih =>
    obtain ⟨-, -, k, writes, rfl⟩ := Host.write_ok wrote
    obtain ⟨m, count⟩ := Nat.exists_eq_add_of_lt more
    have same : escaped.length - (written + min k (escaped.drop written).length) = m + 1 - k := by
      rw [List.length_drop]
      omega
    rw [ih, same, writes, show escaped.length - written = m + 1 by omega, Host.endsWithin]
  | case3 written h more h₁ interrupted ih =>
    obtain ⟨m, count⟩ := Nat.exists_eq_add_of_lt more
    have some : escaped.length - written = m + 1 := by omega
    rw [ih, (Host.write_error interrupted).2.2, some]
    simp [Host.endsWithin]
  | case4 written h more e h₁ failed other blocked =>
    obtain ⟨m, count⟩ := Nat.exists_eq_add_of_lt more
    rw [(Host.write_error failed).2.2, show escaped.length - written = m + 1 by omega]
    simp [Host.endsWithin, other]
  | case5 written h more e h₁ failed other notBlocked =>
    obtain ⟨m, count⟩ := Nat.exists_eq_add_of_lt more
    rw [(Host.write_error failed).2.2, show escaped.length - written = m + 1 by omega]
    simp [Host.endsWithin, other]
  | case6 written h done =>
    rw [show escaped.length - written = 0 by omega, Host.endsWithin]
    rfl

/-! ## The flush in front of it -/

theorem flushWrite_empty {c : FrameConn} {h : Host} (none : c.writeBuf = []) :
    flushWrite c h = some (0, c, h) := by
  rw [flushWrite, flushWriteLoop, if_neg (by simp [none]), ← none]

/-- With bytes pending the flush ends with an error and keeps all of them: its
index never moves. -/
theorem flushWrite_pending {c c₁ : FrameConn} {h h₁ : Host} {result : Int}
    (pending : c.writeBuf ≠ []) (run : flushWrite c h = some (result, c₁, h₁)) :
    result = -1 ∧ c₁ = c ∧ h₁.mallocs = h.mallocs ∧
      Host.afterFlush h.writes =
        if h₁.errno = eagain ∨ h₁.errno = einval then some (h₁.errno, h₁.writes) else none := by
  have waiting : 0 < c.writeBuf.length := List.length_pos_iff.mpr pending
  unfold flushWrite at run
  fun_induction flushWriteLoop 0 c h with
  | case1 => cases run
  | case2 h more n h₂ wrote ih =>
    obtain ⟨same, kept, mallocs, rest⟩ := ih run
    obtain ⟨-, -, k, writes, -⟩ := Host.write_ok wrote
    refine ⟨same, kept, mallocs.trans (Host.write_mallocs wrote), ?_⟩
    rw [writes, Host.afterFlush, rest]
  | case3 h more h₂ interrupted ih =>
    obtain ⟨same, kept, mallocs, rest⟩ := ih run
    refine ⟨same, kept, mallocs.trans (Host.write_mallocs interrupted), ?_⟩
    rw [(Host.write_error interrupted).2.2, Host.afterFlush, if_pos rfl, rest]
  | case4 h more e h₂ failed other advanced => exact absurd advanced (Nat.lt_irrefl 0)
  | case5 h more e h₂ failed other unmoved =>
    cases run
    obtain ⟨-, errno, writes⟩ := Host.write_error failed
    refine ⟨rfl, rfl, Host.write_mallocs failed, ?_⟩
    rw [writes, errno, Host.afterFlush, if_neg other]
  | case6 h done => exact absurd waiting done

theorem flushWrite_ne_none {c : FrameConn} {h : Host}
    (after : Host.afterFlush h.writes ≠ none) : flushWrite c h ≠ none := by
  unfold flushWrite
  fun_induction flushWriteLoop 0 c h with
  | case1 h more ended =>
    rw [Host.write_eq_none ended] at after
    exact absurd rfl after
  | case2 h more n h₁ wrote ih =>
    obtain ⟨-, -, k, writes, -⟩ := Host.write_ok wrote
    rw [writes] at after
    exact ih after
  | case3 h more h₁ interrupted ih =>
    rw [(Host.write_error interrupted).2.2, Host.afterFlush, if_pos rfl] at after
    exact ih after
  | case4 => simp
  | case5 => simp
  | case6 => simp

theorem flushWrite_of_afterFlush {c : FrameConn} {h : Host} {e : Errno}
    {rest : List WriteOutcome} (pending : c.writeBuf ≠ [])
    (after : Host.afterFlush h.writes = some (e, rest)) :
    ∃ h₁, flushWrite c h = some (-1, c, h₁) ∧ h₁.errno = e ∧ h₁.writes = rest ∧
      h₁.mallocs = h.mallocs := by
  cases run : flushWrite c h with
  | none => exact absurd run (flushWrite_ne_none (by rw [after]; exact Option.some_ne_none _))
  | some out =>
    obtain ⟨result, c₁, h₁⟩ := out
    obtain ⟨rfl, rfl, mallocs, same⟩ := flushWrite_pending pending run
    rw [after] at same
    split at same <;> cases same
    exact ⟨h₁, rfl, rfl, rfl, mallocs⟩

/-! ## Escaping depends on the allocations only -/

section Allocations

variable {heap : Heap} {h h' g : Host}

theorem malloc_transfer {block : Block} (run : h.malloc heap = (block, h'))
    (same : g.mallocs = h.mallocs) :
    ∃ g', g.malloc heap = (block, g') ∧ g'.mallocs = h'.mallocs := by
  unfold Host.malloc at run ⊢
  rw [same]
  split at run <;> cases run <;> exact ⟨_, rfl, rfl⟩

theorem ensureEscapedBuffer_transfer {n : Nat} {buf : EscapeBuf} {grown : Option EscapeBuf}
    (run : ensureEscapedBuffer heap n buf h = (grown, h')) (same : g.mallocs = h.mallocs) :
    ∃ g', ensureEscapedBuffer heap n buf g = (grown, g') ∧ g'.mallocs = h'.mallocs := by
  unfold ensureEscapedBuffer at run ⊢
  split at run
  · rename_i full
    rw [if_pos full]
    split at run <;> rename_i allocated <;> cases run <;>
      obtain ⟨g', again, mallocs⟩ := malloc_transfer allocated same <;>
      exact ⟨g', by rw [again], mallocs⟩
  · rename_i fits
    cases run
    exact ⟨g, by rw [if_neg fits], same⟩

theorem escapeLoop_transfer {bytes : List UInt8} {buf : EscapeBuf} {out : Option EscapeBuf}
    (run : escapeLoop heap bytes buf h = (out, h')) (same : g.mallocs = h.mallocs) :
    ∃ g', escapeLoop heap bytes buf g = (out, g') ∧ g'.mallocs = h'.mallocs := by
  induction bytes generalizing buf h g with
  | nil =>
    cases run
    exact ⟨g, rfl, same⟩
  | cons b rest ih =>
    simp only [escapeLoop] at run ⊢
    split at run <;> rename_i ensured <;>
      obtain ⟨g₁, again, mallocs⟩ := ensureEscapedBuffer_transfer ensured same <;> rw [again]
    · cases run
      exact ⟨g₁, rfl, mallocs⟩
    · exact ih run mallocs

theorem escapeFrame_transfer {frame : Frame} {out : Option (List UInt8)}
    (run : escapeFrame heap frame h = (out, h')) (same : g.mallocs = h.mallocs) :
    ∃ g', escapeFrame heap frame g = (out, g') ∧ g'.mallocs = h'.mallocs := by
  unfold escapeFrame at run ⊢
  split at run <;> rename_i first <;>
    obtain ⟨g₁, again, mallocs⟩ := malloc_transfer first same <;> rw [again]
  · cases run
    exact ⟨g₁, rfl, mallocs⟩
  dsimp only at run ⊢
  split at run <;> rename_i looped <;>
    obtain ⟨g₂, again, mallocs⟩ := escapeLoop_transfer looped mallocs <;> rw [again]
  · cases run
    exact ⟨g₂, rfl, mallocs⟩
  dsimp only
  split at run <;> rename_i ensured <;>
    obtain ⟨g₃, again, mallocs⟩ := ensureEscapedBuffer_transfer ensured mallocs <;> rw [again]
  · cases run
    exact ⟨g₃, rfl, mallocs⟩
  dsimp only
  split at run <;> rename_i last <;>
    obtain ⟨g₄, again, mallocs⟩ := malloc_transfer last mallocs <;> rw [again] <;> cases run <;>
    exact ⟨g₄, rfl, mallocs⟩

end Allocations

/-! ## The whole call -/

/-- The outcomes the frame meets: those left after the flush, none when the flush
ends the call. -/
def frameOutcomes (c : FrameConn) (outcomes : List WriteOutcome) : Option (List WriteOutcome) :=
  if c.writeBuf = [] then some outcomes else (Host.afterFlush outcomes).map (·.2)

/-- The frame can be escaped and there is room for it in the write buffer, so it
is written. -/
def Tried (heap : Heap) (c : FrameConn) (h : Host) (frame : Frame) : Prop :=
  (escapeFrame heap frame h).1.isSome ∧
    (escaped frame).length ≤ frameBufSize - c.writeBuf.length

instance (heap : Heap) (c : FrameConn) (h : Host) (frame : Frame) :
    Decidable (Tried heap c h frame) :=
  inferInstanceAs (Decidable (_ ∧ _))

/-- What a flush leaves for the frame: the connection as it is, the allocations to come and,
when the call goes on, the outcomes. -/
theorem frameOutcomes_of_flush {c c₁ : FrameConn} {h h₁ : Host} {flushed : Int}
    (flush : flushWrite c h = some (flushed, c₁, h₁)) :
    c₁ = c ∧ h₁.mallocs = h.mallocs ∧ frameOutcomes c h.writes =
      if flushed < 0 ∧ ¬ (h₁.errno = eagain ∨ h₁.errno = einval) then none
      else some h₁.writes := by
  by_cases none : c.writeBuf = []
  · rw [flushWrite_empty none] at flush
    cases flush
    exact ⟨rfl, rfl, by simp [frameOutcomes, none]⟩
  · obtain ⟨rfl, rfl, mallocs, after⟩ := flushWrite_pending none flush
    refine ⟨rfl, mallocs, ?_⟩
    rw [frameOutcomes, if_neg none, after]
    by_cases goesOn : h₁.errno = eagain ∨ h₁.errno = einval <;> simp [goesOn]

/-- A call either leaves the frame alone, behind a failed flush, a failed
allocation or for want of room, or runs the loop over all of it. -/
theorem writeFrame_cases {heap : Heap} {c c' : FrameConn} {h h' : Host} {frame : Frame}
    {result : Int} (run : writeFrame heap c h frame = some (result, c', h')) :
    ∃ flushed h₁, flushWrite c h = some (flushed, c, h₁) ∧
      ((¬ (Tried heap c h frame ∧ (frameOutcomes c h.writes).isSome) ∧
          result = -1 ∧ c' = c ∧ h'.wire = h₁.wire) ∨
        ∃ h₂, h₂.wire = h₁.wire ∧ Tried heap c h frame ∧
          frameOutcomes c h.writes = some h₂.writes ∧
          writeFrameLoop (escaped frame) 0 c h₂ = some (result, c', h')) := by
  simp only [writeFrame, Option.bind_eq_bind, Option.bind_eq_some_iff] at run
  obtain ⟨⟨flushed, c₁, h₁⟩, flush, run⟩ := run
  obtain ⟨rfl, mallocs, outcomes⟩ := frameOutcomes_of_flush flush
  refine ⟨flushed, h₁, flush, ?_⟩
  dsimp only at run
  split at run
  · rename_i ends
    rw [if_pos ends] at outcomes
    cases run
    exact .inl ⟨by simp [outcomes], rfl, rfl, rfl⟩
  · rename_i goesOn
    rw [if_neg goesOn] at outcomes
    split at run <;> rename_i escapes <;>
      obtain ⟨g, again, -⟩ := escapeFrame_transfer escapes mallocs.symm <;>
      have alone := escapeFrame_onlyAllocates escapes
    · cases run
      exact .inl ⟨by simp [Tried, again], rfl, rfl, alone.wire⟩
    · obtain rfl := escapeFrame_out escapes
      split at run <;> rename_i room
      · cases run
        exact .inl ⟨fun tried => absurd room (Nat.not_lt.mpr tried.1.2), rfl, rfl, alone.wire⟩
      · refine .inr ⟨_, alone.wire, ⟨?_, by omega⟩, ?_, run⟩
        · rw [again]
          rfl
        · rw [outcomes, alone.writes]

/-- With enough outcomes behind the flush the call returns, after the loop. -/
theorem writeFrame_of_tried {heap : Heap} {c : FrameConn} {h : Host} {frame : Frame}
    {outcomes : List WriteOutcome} (tried : Tried heap c h frame)
    (rest : frameOutcomes c h.writes = some outcomes)
    (ends : Host.endsWithin (escaped frame).length outcomes = true) :
    ∃ result c' h' flushed h₁ h₂, writeFrame heap c h frame = some (result, c', h') ∧
      flushWrite c h = some (flushed, c, h₁) ∧ h₂.wire = h₁.wire ∧ h₂.writes = outcomes ∧
      writeFrameLoop (escaped frame) 0 c h₂ = some (result, c', h') := by
  have returns : writeFrame heap c h frame ≠ none := by
    obtain ⟨flushed, h₁, flush, goesOn, writes, mallocs⟩ : ∃ flushed h₁,
        flushWrite c h = some (flushed, c, h₁) ∧
          ¬ (flushed < 0 ∧ ¬ (h₁.errno = eagain ∨ h₁.errno = einval)) ∧
          h₁.writes = outcomes ∧ h₁.mallocs = h.mallocs := by
      by_cases none : c.writeBuf = []
      · rw [frameOutcomes, if_pos none] at rest
        cases rest
        exact ⟨0, h, flushWrite_empty none, by simp, rfl, rfl⟩
      · rw [frameOutcomes, if_neg none, Option.map_eq_some_iff] at rest
        obtain ⟨⟨e, rest⟩, after, rfl⟩ := rest
        obtain ⟨h₁, flush, rfl, writes, mallocs⟩ := flushWrite_of_afterFlush none after
        exact ⟨-1, h₁, flush, by simp [Host.afterFlush_errno after], writes, mallocs⟩
    obtain ⟨escapes, room⟩ := tried
    simp only [writeFrame, flush, Option.bind_eq_bind, Option.bind_some, if_neg goesOn]
    obtain ⟨out, h₂, run⟩ : ∃ out h₂, escapeFrame heap frame h₁ = (out, h₂) := ⟨_, _, rfl⟩
    obtain ⟨g, again, -⟩ := escapeFrame_transfer run mallocs.symm
    rw [again] at escapes
    obtain ⟨bytes, rfl⟩ := Option.isSome_iff_exists.mp escapes
    obtain rfl := escapeFrame_out run
    simp only [run, if_neg (Nat.not_lt.mpr room)]
    apply Option.isSome_iff_ne_none.mp
    rwa [writeFrameLoop_isSome, Nat.sub_zero, (escapeFrame_onlyAllocates run).writes, writes]
  obtain ⟨⟨result, c', h'⟩, run⟩ := Option.ne_none_iff_exists'.mp returns
  obtain ⟨flushed, h₁, flush, untried | ⟨h₂, wire, -, same, loop⟩⟩ := writeFrame_cases run
  · exact absurd ⟨tried, by rw [rest]; rfl⟩ untried.1
  · rw [rest] at same
    cases same
    exact ⟨result, c', h', flushed, h₁, h₂, run, flush, wire, rfl, loop⟩

/-! ## The return code -/

/-- What the return code says about the frame. `sent` and `kept` are the bytes of
the frame that the socket has been given and that are put in the write buffer. -/
def TellsTruth (heap : Heap) (c : FrameConn) (h : Host) (frame : Frame) : Prop :=
  ∀ result c' h', writeFrame heap c h frame = some (result, c', h') →
    ∃ flushed c₁ h₁ sent kept, flushWrite c h = some (flushed, c₁, h₁) ∧
      h'.wire = h₁.wire ++ sent ∧ c'.writeBuf = c₁.writeBuf ++ kept ∧
      (result = -1 ∧ (h'.errno = eagain ∨ h'.errno = ewouldblock) → sent = [] ∧ kept = []) ∧
      (result = 0 → sent ++ kept = escaped frame)

/-- A `write` blocks before the last byte of the frame is accepted. -/
def BlocksInFrame (heap : Heap) (c : FrameConn) (h : Host) (frame : Frame) : Prop :=
  Tried heap c h frame ∧ ∃ outcomes, frameOutcomes c h.writes = some outcomes ∧
    Host.blocksWithin (escaped frame).length outcomes = true

/-- A frame that is cut by a block is in the write buffer, and -1 with EAGAIN is
returned all the same. -/
theorem not_tellsTruth {heap : Heap} {c : FrameConn} {h : Host} {frame : Frame}
    (blocks : BlocksInFrame heap c h frame) : ¬ TellsTruth heap c h frame := by
  intro truth
  obtain ⟨tried, outcomes, rest, blocked⟩ := blocks
  obtain ⟨result, c', h', flushed, h₁, h₂, run, flush, wire, rfl, loop⟩ :=
    writeFrame_of_tried tried rest (Host.endsWithin_of_blocksWithin blocked)
  obtain ⟨flushed', c₁, h₁', sent, kept, flush', -, buffer, honest, -⟩ := truth _ _ _ run
  rw [flush] at flush'
  cases flush'
  obtain ⟨rfl, errno⟩ := (writeFrameLoop_blocks loop).mp blocked
  obtain ⟨-, left, -, -, ending⟩ := writeFrameLoop_end loop
  obtain ⟨-, rfl⟩ := honest ⟨rfl, .inl errno⟩
  cases ending with
  | blocked some buffered =>
    rw [buffered] at buffer
    exact some (List.append_cancel_left buffer)
  | failed some same notBlocked => exact notBlocked errno

/-- The return code tells the truth unless the frame is cut by a block. -/
theorem tellsTruth_iff (heap : Heap) (c : FrameConn) (h : Host) (frame : Frame) :
    TellsTruth heap c h frame ↔ ¬ BlocksInFrame heap c h frame := by
  constructor
  · exact fun truth blocks => not_tellsTruth blocks truth
  intro unblocked result c' h' run
  obtain ⟨flushed, h₁, flush, ⟨-, rfl, rfl, wire⟩ | ⟨h₂, wire, tried, rest, loop⟩⟩ :=
    writeFrame_cases run
  · refine ⟨flushed, c', h₁, [], [], flush, ?_, ?_, fun _ => ⟨rfl, rfl⟩, fun zero => by cases zero⟩
    · rw [wire, List.append_nil]
    · rw [List.append_nil]
  · obtain ⟨sent, left, split, sentWire, ending⟩ := writeFrameLoop_end loop
    rw [List.drop_zero] at split
    have notBlocked : ¬ (result = -1 ∧ h'.errno = eagain) := fun blocked =>
      unblocked ⟨tried, _, rest, (writeFrameLoop_blocks loop).mpr blocked⟩
    refine ⟨flushed, c, h₁, sent, [], flush, by rw [sentWire, wire], ?_, ?_, ?_⟩
    · cases ending with
      | written _ same => rw [same, List.append_nil]
      | blocked _ _ errno => exact absurd ⟨rfl, errno⟩ notBlocked
      | failed _ same => rw [same, List.append_nil]
    · exact fun blocked => absurd ⟨blocked.1, blocked.2.elim id id⟩ notBlocked
    · rintro rfl
      cases ending with
      | written all => rw [split, all]

/-- A socket that behaves as listed on its `write` calls. -/
def writing (writes : List WriteOutcome) : Host :=
  { errno := 0, reads := [], writes, mallocs := 0, wire := [], got := [] }

/-- An ACK frame whose first byte is accepted before the socket blocks. -/
theorem not_tellsTruth_cut_ack :
    ¬ TellsTruth (fun _ => some []) fresh (writing [.wrote 1, .err eagain])
      { dataType := frameDataTypeAck, sequenceId := 0, payloadLength := 0, body := [1] } :=
  not_tellsTruth ⟨by decide, _, rfl, by decide⟩

/-! ## The order on the wire -/

/-- With bytes still pending after a flush that blocked, none of the frame's bytes
is given to the socket (the pending ones are all still in the write buffer) and
those that are buffered stand behind the pending ones. -/
def KeepsOrder (heap : Heap) (c : FrameConn) (h : Host) (frame : Frame) : Prop :=
  ∀ flushed c₁ h₁, flushWrite c h = some (flushed, c₁, h₁) → flushed < 0 → h₁.errno = eagain →
    c₁.writeBuf ≠ [] → ∀ result c' h', writeFrame heap c h frame = some (result, c', h') →
      ∃ sent kept, h'.wire = h₁.wire ++ sent ∧ c'.writeBuf = c₁.writeBuf ++ kept ∧
        sent ++ kept <+: escaped frame ∧ sent = []

/-- Behind a flush that blocked the socket accepts bytes again, and the frame is
written to it. -/
def Overtakes (heap : Heap) (c : FrameConn) (h : Host) (frame : Frame) : Prop :=
  c.writeBuf ≠ [] ∧ Tried heap c h frame ∧ ∃ outcomes,
    Host.afterFlush h.writes = some (eagain, outcomes) ∧ Host.acceptsFirst outcomes = true ∧
      Host.endsWithin (escaped frame).length outcomes = true

theorem escaped_ne_nil (frame : Frame) : escaped frame ≠ [] := by simp [escaped]

theorem not_keepsOrder {heap : Heap} {c : FrameConn} {h : Host} {frame : Frame}
    (overtakes : Overtakes heap c h frame) : ¬ KeepsOrder heap c h frame := by
  intro order
  obtain ⟨pending, tried, outcomes, after, accepts, ends⟩ := overtakes
  have rest : frameOutcomes c h.writes = some outcomes := by
    rw [frameOutcomes, if_neg pending, after]
    rfl
  obtain ⟨result, c', h', flushed, h₁, h₂, run, flush, wire, rfl, loop⟩ :=
    writeFrame_of_tried tried rest ends
  obtain ⟨h₁', flush', errno, -, -⟩ := flushWrite_of_afterFlush pending after
  rw [flush] at flush'
  cases flush'
  obtain ⟨sent, kept, given, -, -, rfl⟩ :=
    order _ _ _ flush (by decide) errno pending _ _ _ run
  apply (writeFrameLoop_accepts (List.length_pos_iff.mpr (escaped_ne_nil frame)) loop).mp accepts
  rw [given, wire, List.append_nil]

/-- The order is kept unless the socket accepts bytes right behind the flush. -/
theorem keepsOrder_iff (heap : Heap) (c : FrameConn) (h : Host) (frame : Frame) :
    KeepsOrder heap c h frame ↔ ¬ Overtakes heap c h frame := by
  constructor
  · exact fun order overtakes => not_keepsOrder overtakes order
  intro waits flushed c₁ h₁ flush failed errno pending result c' h' run
  obtain ⟨flushed', h₁', flush', cases⟩ := writeFrame_cases run
  rw [flush] at flush'
  cases flush'
  obtain ⟨-, rfl, wire⟩ | ⟨h₂, wire, tried, rest, loop⟩ := cases
  · refine ⟨[], [], ?_, ?_, List.nil_prefix, rfl⟩
    · rw [wire.2, List.append_nil]
    · rw [wire.1, List.append_nil]
  · obtain ⟨sent, left, split, sentWire, ending⟩ := writeFrameLoop_end loop
    rw [List.drop_zero] at split
    have nothing : sent = [] := by
      by_contra some
      apply waits
      refine ⟨pending, tried, h₂.writes, ?_, ?_, ?_⟩
      · obtain ⟨-, -, -, after⟩ := flushWrite_pending pending flush
        rw [if_pos (.inl errno), errno] at after
        rw [frameOutcomes, if_neg pending, after] at rest
        rw [after]
        exact congrArg _ (Prod.ext rfl (Option.some.inj rest))
      · apply (writeFrameLoop_accepts (List.length_pos_iff.mpr (escaped_ne_nil frame)) loop).mpr
        rw [sentWire]
        exact fun same => some (List.append_right_eq_self.mp same)
      · rw [← Nat.sub_zero (escaped frame).length, ← writeFrameLoop_isSome _ 0 c h₂, loop]
        rfl
    subst nothing
    rw [List.nil_append] at split
    cases ending with
    | written _ same => exact ⟨[], [], by rw [sentWire, wire], by rw [same, List.append_nil],
        List.nil_prefix, rfl⟩
    | blocked _ buffered _ => exact ⟨[], left, by rw [sentWire, wire], by rw [buffered],
        by rw [split]; exact List.prefix_refl left, rfl⟩
    | failed _ same _ => exact ⟨[], [], by rw [sentWire, wire], by rw [same, List.append_nil],
        List.nil_prefix, rfl⟩

/-- Two bytes pending, a flush that blocks, and then a socket that takes the new
frame whole. -/
theorem not_keepsOrder_pending_bytes :
    ¬ KeepsOrder (fun _ => some []) { fresh with writeBuf := [0x00, 0x3c] }
      (writing [.err eagain, .wrote 100])
      { dataType := frameDataTypeAck, sequenceId := 0, payloadLength := 0, body := [1] } :=
  not_keepsOrder ⟨by decide, by decide, _, rfl, by decide, by decide⟩

end FrameConn

end Libmdr
