import Libmdr.FrameConn.Deframe

/-!
# Reading a whole stream

Repeated `mdr_frameconn_read_frame` calls up to the first that returns NULL, and
what they return for a stream that arrives in chunks.
-/

namespace Libmdr.FrameConn
set_option autoImplicit false

/-- A call uses up bytes of the buffer or of the socket when it returns a frame. -/
theorem readFrame_uses {c c' : FrameConn} {h h' : Host} {frame : Option Frame}
    (run : readFrame c h = some (frame, c', h')) :
    c'.readBuf.length + h'.pendingReads + frame.toList.length ≤
      c.readBuf.length + h.pendingReads := by
  fun_induction readFrame c h with
  | case1 c h found c₁ errno scanned =>
    have shorter := nextFrame_length scanned
    cases run
    simp only [Host.pendingReads] at shorter ⊢
    omega
  | case2 c h c₁ errno scanned =>
    have shorter := nextFrame_length scanned
    cases run
    simp only [Host.pendingReads] at shorter ⊢
    omega
  | case3 => cases run
  | case4 c h c₁ errno scanned noError e h₁ first =>
    have shorter := nextFrame_length scanned
    have room := (nextFrameLoop_room _ _ _ scanned).1
    have fewer := readBytes_pendingReads (by omega) first
    cases run
    simp only [Host.pendingReads] at shorter fewer ⊢
    omega
  | case5 c h c₁ errno scanned noError bytes h₁ first ih =>
    have shorter := nextFrame_length scanned
    have fewer := readBytes_bytes_le first
    have rest := ih run
    simp only [Host.pendingReads, List.length_append] at shorter fewer rest ⊢
    omega

/-- The frames of successive `mdr_frameconn_read_frame` calls up to the first NULL. -/
def readAll (c : FrameConn) (h : Host) : Option (List Frame × FrameConn × Host) :=
  match _run : readFrame c h with
  | none => none
  | some (none, c, h) => some ([], c, h)
  | some (some frame, c, h) => do
    let (frames, c, h) ← readAll c h
    return (frame :: frames, c, h)
termination_by c.readBuf.length + h.pendingReads
decreasing_by
  have uses := readFrame_uses _run
  simp only [Option.toList_some, List.length_singleton] at uses
  exact Nat.lt_of_succ_le uses

/-! ## One call -/

/-- A new connection has seen nothing. -/
theorem scanning_fresh : Scanning [] 0 fresh where
  fits := Nat.zero_le _
  started := fun started => by cases started
  stopped := fun _ => ⟨rfl, Or.inl (by simp [fresh])⟩

/-- The next scan of the buffer starts at its first byte, whatever was read meanwhile. -/
theorem Scanning.rescan {history : List UInt8} {i : Nat} {c : FrameConn}
    (scanning : Scanning history i c) (bytes : List UInt8)
    (fits : c.readBuf.length + bytes.length ≤ frameBufSize) :
    Scanning history 0 { c with readBuf := c.readBuf ++ bytes } where
  fits := by simpa using fits
  started := fun started => ⟨(scanning.started started).1, by simp [Delimited.Plain]⟩
  stopped := fun stopped => ⟨(scanning.stopped stopped).1, Or.inl (by simp)⟩

/-- What one call gives: the next frame of the stream, or NULL when the bytes
that arrive hold no further frame. -/
inductive CallEnd (history stream : List UInt8) : Option (Option Frame × FrameConn × Host) → Prop
  | frame (frame : Frame) (c : FrameConn) (h : Host) (taken : List UInt8)
      (split : stream = taken ++ c.readBuf ++ Host.arriving h.reads)
      (next : framesIn none taken = framesIn none history ++ [frame])
      (scanning : Scanning taken 0 c) (blocks : Host.Blocks h.reads) :
      CallEnd history stream (some (some frame, c, h))
  | null (c : FrameConn) (h : Host) (ended : framesIn none stream = framesIn none history) :
      CallEnd history stream (some (none, c, h))

theorem CallEnd.same_frames {history history' stream : List UInt8}
    {result : Option (Option Frame × FrameConn × Host)} (callEnd : CallEnd history stream result)
    (same : framesIn none history = framesIn none history') : CallEnd history' stream result := by
  cases callEnd with
  | frame frame c h taken split next scanning blocks =>
    exact .frame frame c h taken split (by rw [next, same]) scanning blocks
  | null c h ended => exact .null c h (ended.trans same)

/-- At the end of the stream the bytes left in the buffer hold no frame. -/
theorem Scanning.rest {history : List UInt8} {c : FrameConn}
    (scanning : Scanning history c.readBuf.length c) (room : c.readBuf.length < frameBufSize)
    (kept : ¬ LosesFrame (history ++ c.readBuf)) :
    framesIn none (history ++ c.readBuf) = framesIn none history := by
  have none_left := framesIn_before [] scanning room (Nat.le_refl _)
    (Or.inl (by rw [List.drop_length, List.append_nil])) (by rwa [List.append_nil])
  rwa [List.take_length] at none_left

/-- One call gives the next frame of a stream that loses none. -/
theorem readFrame_spec {history stream : List UInt8} {c : FrameConn} {h : Host}
    (scanning : Scanning history 0 c) (blocks : Host.Blocks h.reads)
    (split : stream = history ++ c.readBuf ++ Host.arriving h.reads)
    (kept : ¬ LosesFrame stream) : CallEnd history stream (readFrame c h) := by
  subst split
  fun_induction readFrame c h generalizing history with
  | case1 c h found c₁ errno scanned =>
    obtain ⟨taken, result⟩ := nextFrame_spec scanning kept scanned
    obtain ⟨stopped, outside⟩ := result.found rfl
    have shorter := nextFrame_length scanned
    have fits := scanning.fits
    rw [result.split]
    refine CallEnd.frame _ _ _ taken rfl result.frames ⟨?_, ?_, ?_⟩ blocks
    · omega
    · intro started
      rw [stopped] at started
      cases started
    · exact fun _ => ⟨outside, Or.inl (by simp)⟩
  | case2 c h c₁ errno scanned failed =>
    exact absurd (nextFrameLoop_room _ _ _ scanned).2 failed
  | case3 c h c₁ errno scanned noError never => exact absurd never (readBytes_ne_none blocks)
  | case4 c h c₁ errno scanned noError e h₁ first =>
    obtain ⟨taken, result⟩ := nextFrame_spec scanning kept scanned
    have room := (nextFrameLoop_room _ _ _ scanned).1
    have ended := readBytes_error first
    change Host.arriving h.reads = [] at ended
    refine CallEnd.null _ _ ?_
    rw [ended, List.append_nil, result.split] at kept ⊢
    have none_left := (result.scanning rfl).rest room kept
    rw [none_left, result.frames]
    exact List.append_nil _
  | case5 c h c₁ errno scanned noError bytes h₁ first ih =>
    obtain ⟨taken, result⟩ := nextFrame_spec scanning kept scanned
    have room := (nextFrameLoop_room _ _ _ scanned).1
    obtain ⟨short, arrives, still⟩ := readBytes_ok first
    change Host.arriving h.reads = _ at arrives
    have moved : history ++ c.readBuf ++ Host.arriving h.reads =
        taken ++ (c₁.readBuf ++ bytes) ++ Host.arriving h₁.reads := by
      rw [result.split, arrives]
      simp only [List.append_assoc]
    have scanning' := (result.scanning rfl).rescan bytes (by omega)
    rw [moved] at kept ⊢
    exact (ih scanning' (still blocks) kept).same_frames (by simpa using result.frames)

/-! ## Call after call -/

/-- Repeated calls give the frames of a stream that loses none. -/
theorem readAll_spec {history stream : List UInt8} {c : FrameConn} {h : Host}
    (scanning : Scanning history 0 c) (blocks : Host.Blocks h.reads)
    (split : stream = history ++ c.readBuf ++ Host.arriving h.reads)
    (kept : ¬ LosesFrame stream) :
    ∃ frames c' h', readAll c h = some (frames, c', h') ∧
      framesIn none stream = framesIn none history ++ frames := by
  have step := readFrame_spec scanning blocks split kept
  fun_induction readAll c h generalizing history with
  | case1 c h never =>
    rw [never] at step
    cases step
  | case2 c h c₁ h₁ last =>
    rw [last] at step
    cases step with
    | null c h ended => exact ⟨[], c₁, h₁, rfl, by rw [ended, List.append_nil]⟩
  | case3 c h frame c₁ h₁ first ih =>
    rw [first] at step
    cases step with
    | frame frame c h taken split next scanning blocks =>
      have rest := readFrame_spec scanning blocks split kept
      obtain ⟨frames, c', h', run, all⟩ := ih scanning blocks split rest
      refine ⟨frame :: frames, c', h', by simp [run], ?_⟩
      rw [all, next, List.append_assoc, List.singleton_append]

/-- What a new connection returns for the chunks of a stream that loses no frame. -/
theorem readAll_chunked {h : Host} {chunks : List (List UInt8)}
    (reads : h.reads = Host.chunked chunks) (kept : ¬ LosesFrame chunks.flatten) :
    ∃ c' h', readAll fresh h = some (framesIn none chunks.flatten, c', h') := by
  obtain ⟨frames, c', h', run, all⟩ := readAll_spec scanning_fresh
    (by rw [reads]; exact Host.blocks_chunked chunks)
    (by rw [reads, Host.arriving_chunked]; rfl) kept
  rw [framesIn_nil, List.nil_append] at all
  exact ⟨c', h', by rw [run, all]⟩

end Libmdr.FrameConn
