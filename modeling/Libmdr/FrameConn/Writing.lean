import Libmdr.FrameConn.Model

/-!
# Writing leaves the read side alone

The functions that write, and those that only allocate, change neither what the
socket will give nor what has been read from it, and of the frame connection only
the write buffer.
-/

namespace Libmdr
set_option autoImplicit false

namespace Host

/-- What was read and what is still to be read is the same. -/
structure SameInput (h h' : Host) : Prop where
  reads : h'.reads = h.reads
  got : h'.got = h.got

theorem SameInput.refl (h : Host) : SameInput h h := ⟨rfl, rfl⟩

theorem SameInput.trans {h₁ h₂ h₃ : Host} (front : SameInput h₁ h₂) (back : SameInput h₂ h₃) :
    SameInput h₁ h₃ := ⟨back.reads.trans front.reads, back.got.trans front.got⟩

/-- Allocating changes nothing but errno and the number of allocations. -/
structure OnlyAllocates (h h' : Host) : Prop extends SameInput h h' where
  writes : h'.writes = h.writes
  wire : h'.wire = h.wire

theorem OnlyAllocates.refl (h : Host) : OnlyAllocates h h := ⟨.refl h, rfl, rfl⟩

/-- One allocation after the other is still no call of the socket. -/
theorem OnlyAllocates.trans {h₁ h₂ h₃ : Host} (front : OnlyAllocates h₁ h₂)
    (back : OnlyAllocates h₂ h₃) : OnlyAllocates h₁ h₃ where
  toSameInput := front.toSameInput.trans back.toSameInput
  writes := back.writes.trans front.writes
  wire := back.wire.trans front.wire

/-- `malloc` counts its calls, and sets errno when it fails. -/
theorem malloc_onlyAllocates {heap : Heap} {h h' : Host} {block : Block}
    (run : h.malloc heap = (block, h')) : OnlyAllocates h h' := by
  unfold malloc at run
  split at run <;> cases run <;> exact ⟨⟨rfl, rfl⟩, rfl, rfl⟩

/-- `malloc` takes nothing from the socket. -/
theorem malloc_sameInput {heap : Heap} {h h' : Host} {block : Block}
    (run : h.malloc heap = (block, h')) : SameInput h h' :=
  (malloc_onlyAllocates run).toSameInput

/-- `write` takes nothing from the socket. -/
theorem write_sameInput {h h' : Host} {bytes : List UInt8} {r : Except Errno Nat}
    (run : h.write bytes = some (r, h')) : SameInput h h' := by
  unfold write at run
  split at run <;> cases run <;> exact ⟨rfl, rfl⟩

end Host

namespace FrameConn

/-- `ensure_escaped_buffer` calls `realloc` or nothing. -/
theorem ensureEscapedBuffer_onlyAllocates {heap : Heap} {n : Nat} {buf : EscapeBuf}
    {grown : Option EscapeBuf} {h h' : Host}
    (run : ensureEscapedBuffer heap n buf h = (grown, h')) : h.OnlyAllocates h' := by
  unfold ensureEscapedBuffer at run
  split at run
  · split at run <;> rename_i allocated <;> cases run <;> exact Host.malloc_onlyAllocates allocated
  · cases run
    exact .refl h

/-- The induction is on the bytes that are left. -/
theorem escapeLoop_onlyAllocates {heap : Heap} {bytes : List UInt8} {buf : EscapeBuf}
    {out : Option EscapeBuf} {h h' : Host} (run : escapeLoop heap bytes buf h = (out, h')) :
    h.OnlyAllocates h' := by
  induction bytes generalizing buf h with
  | nil =>
    cases run
    exact .refl _
  | cons b rest ih =>
    simp only [escapeLoop] at run
    split at run
    · rename_i ensured
      cases run
      exact ensureEscapedBuffer_onlyAllocates ensured
    · rename_i ensured
      exact (ensureEscapedBuffer_onlyAllocates ensured).trans (ih run)

/-- Escaping happens before the first byte is offered to the socket. -/
theorem escapeFrame_onlyAllocates {heap : Heap} {frame : Frame} {out : Option (List UInt8)}
    {h h' : Host} (run : escapeFrame heap frame h = (out, h')) : h.OnlyAllocates h' := by
  unfold escapeFrame at run
  split at run
  · rename_i first
    cases run
    exact Host.malloc_onlyAllocates first
  · rename_i first
    have before := Host.malloc_onlyAllocates first
    dsimp only at run
    split at run
    · rename_i looped
      cases run
      exact before.trans (escapeLoop_onlyAllocates looped)
    · rename_i looped
      have before := before.trans (escapeLoop_onlyAllocates looped)
      split at run
      · rename_i ensured
        cases run
        exact before.trans (ensureEscapedBuffer_onlyAllocates ensured)
      · rename_i ensured
        have before := before.trans (ensureEscapedBuffer_onlyAllocates ensured)
        split at run <;> rename_i last <;> cases run <;>
          exact before.trans (Host.malloc_onlyAllocates last)

theorem escapeFrame_sameInput {heap : Heap} {frame : Frame} {out : Option (List UInt8)}
    {h h' : Host} (run : escapeFrame heap frame h = (out, h')) : h.SameInput h' :=
  (escapeFrame_onlyAllocates run).toSameInput

/-- The read side of a connection and its host is the same. -/
structure SameReading (c : FrameConn) (h : Host) (c' : FrameConn) (h' : Host) : Prop where
  readBuf : c'.readBuf = c.readBuf
  readStarted : c'.readStarted = c.readStarted
  input : h.SameInput h'

theorem SameReading.refl (c : FrameConn) (h : Host) : SameReading c h c h := ⟨rfl, rfl, .refl h⟩

theorem SameReading.trans {c₁ c₂ c₃ : FrameConn} {h₁ h₂ h₃ : Host}
    (front : SameReading c₁ h₁ c₂ h₂) (back : SameReading c₂ h₂ c₃ h₃) :
    SameReading c₁ h₁ c₃ h₃ where
  readBuf := back.readBuf.trans front.readBuf
  readStarted := back.readStarted.trans front.readStarted
  input := front.input.trans back.input

/-- The host is called, and the connection stays as it is. -/
theorem SameReading.of_input {c : FrameConn} {h h' : Host} (input : h.SameInput h') :
    SameReading c h c h' := ⟨rfl, rfl, input⟩

/-- Flushing does not touch what was read. The induction is on the outcomes of `write` that are
left. -/
theorem flushWriteLoop_sameReading {i : Nat} {c c' : FrameConn} {h h' : Host} {result : Int}
    (run : flushWriteLoop i c h = some (result, c', h')) : SameReading c h c' h' := by
  fun_induction flushWriteLoop i c h with
  | case1 => cases run
  | case2 h more n h₁ wrote ih =>
    exact .trans (.of_input (Host.write_sameInput wrote)) (ih run)
  | case3 h more h₁ interrupted ih =>
    exact .trans (.of_input (Host.write_sameInput interrupted)) (ih run)
  | case4 h more e h₁ failed other partly moved =>
    cases run
    exact ⟨rfl, rfl, Host.write_sameInput failed⟩
  | case5 h more e h₁ failed other nothing =>
    cases run
    exact ⟨rfl, rfl, Host.write_sameInput failed⟩
  | case6 h done =>
    cases run
    exact ⟨rfl, rfl, .refl _⟩

/-- Nor does the loop that writes a frame. -/
theorem writeFrameLoop_sameReading {escaped : List UInt8} {written : Nat} {c c' : FrameConn}
    {h h' : Host} {result : Int}
    (run : writeFrameLoop escaped written c h = some (result, c', h')) : SameReading c h c' h' := by
  fun_induction writeFrameLoop escaped written c h with
  | case1 => cases run
  | case2 written h more n h₁ wrote ih =>
    exact .trans (.of_input (Host.write_sameInput wrote)) (ih run)
  | case3 written h more h₁ interrupted ih =>
    exact .trans (.of_input (Host.write_sameInput interrupted)) (ih run)
  | case4 written h more e h₁ failed other blocked =>
    cases run
    exact ⟨rfl, rfl, Host.write_sameInput failed⟩
  | case5 written h more e h₁ failed other =>
    cases run
    exact ⟨rfl, rfl, Host.write_sameInput failed⟩
  | case6 written h done =>
    cases run
    exact .refl _ _

/-- **Writing does not touch reading.** The read buffer and the scan index are as before, whatever
becomes of the frame. -/
theorem writeFrame_sameReading {heap : Heap} {c c' : FrameConn} {h h' : Host} {frame : Frame}
    {result : Int} (run : writeFrame heap c h frame = some (result, c', h')) :
    SameReading c h c' h' := by
  simp only [writeFrame, Option.bind_eq_bind, Option.bind_eq_some_iff] at run
  obtain ⟨⟨flushed, c₁, h₁⟩, flush, run⟩ := run
  have before : SameReading c h c₁ h₁ := flushWriteLoop_sameReading flush
  dsimp only at run
  split at run
  · cases run
    exact before
  · split at run
    · rename_i escapes
      cases run
      exact before.trans (.of_input (escapeFrame_sameInput escapes))
    · rename_i escapes
      have before := before.trans (.of_input (escapeFrame_sameInput escapes))
      split at run
      · cases run
        exact before.trans (.of_input ⟨rfl, rfl⟩)
      · exact before.trans (writeFrameLoop_sameReading run)

end FrameConn

end Libmdr
