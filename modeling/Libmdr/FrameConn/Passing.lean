import Libmdr.FrameConn.Leftover
import Libmdr.FrameConn.Stream

/-!
# What a read passes over

`mdr_frameconn_read_frame` on any stream, one that loses frames included. The bytes that it takes
off the buffer end with the frame that it returns; the frames in front of that one are passed
over, and there are none when the stream loses no frame. So what a connection reads is the stream's
frames in their order, with some left out, and nothing else.
-/

namespace Libmdr.FrameConn
set_option autoImplicit false

/-- What a scan of the buffer leaves, whether or not it passed over frames. -/
structure ScanPass (history : List UInt8) (c : FrameConn) (frame : Option Frame) (c' : FrameConn)
    (taken : List UInt8) : Prop where
  split : history ++ c.readBuf = taken ++ c'.readBuf
  frames : ∃ passed, framesIn none taken = framesIn none history ++ passed ++ frame.toList
  found : frame.isSome → c'.readStarted = false ∧ openBody none taken = none
  scanning : frame = none → Scanning taken c'.readBuf.length c'

/-- A part of the scan comes before the rest of it. -/
theorem ScanPass.after {history history₁ taken : List UInt8} {c c₁ c' : FrameConn}
    {frame : Option Frame} (result : ScanPass history₁ c₁ frame c' taken)
    (split : history ++ c.readBuf = history₁ ++ c₁.readBuf) (passed : List Frame)
    (seen : framesIn none history₁ = framesIn none history ++ passed) :
    ScanPass history c frame c' taken where
  split := split.trans result.split
  frames := by
    obtain ⟨more, frames⟩ := result.frames
    exact ⟨passed ++ more, by rw [frames, seen, List.append_assoc (framesIn none history)]⟩
  found := result.found
  scanning := result.scanning

theorem nextFrameLoop_passes {history : List UInt8} {i : Nat} {c : FrameConn} (errno : Errno)
    (scanning : Scanning history i c) :
    ∃ taken, ScanPass history c (nextFrameLoop i c errno).1 (nextFrameLoop i c errno).2.1 taken := by
  fun_induction nextFrameLoop i c errno generalizing history with
  | case1 i c errno small isStart ih =>
    have whole := split_at history small
    rw [isStart] at whole
    obtain ⟨taken, result⟩ := ih (scanning.restart small)
    refine ⟨taken, result.after whole (framesIn (openBody none history) (c.readBuf.take i)) ?_⟩
    rw [(at_start none _).2, framesIn_append]
  | case2 i c errno small _ isEnd shifted frame =>
    rename_i valid
    have whole := split_at history small
    rw [isEnd.1] at whole
    obtain ⟨outside, frames⟩ := scanning.close small isEnd.2
    refine ⟨_, whole, ⟨[], ?_⟩, fun _ => ⟨rfl, outside⟩, ?_⟩
    · rw [frames, valid, List.append_nil]
    · intro absent
      cases absent
  | case3 i c errno small _ isEnd shifted isInvalid =>
    rename_i ih
    have whole := split_at history small
    rw [isEnd.1] at whole
    obtain ⟨outside, frames⟩ := scanning.close small isEnd.2
    obtain ⟨taken, result⟩ := ih (scanning.skip small isEnd.2 isInvalid)
    refine ⟨taken, result.after whole [] ?_⟩
    rw [frames, isInvalid, Option.toList_none]
  | case4 i c errno small notStart notEnd ih =>
    obtain ⟨taken, result⟩ := ih (scanning.advance small notStart notEnd)
    exact ⟨taken, result⟩
  | case5 i c errno done full =>
    obtain ⟨outside, frames⟩ := scanning.clear (by omega) full
    refine ⟨history ++ c.readBuf, by simp, ⟨[], by simpa using frames⟩, by simp, ?_⟩
    intro _
    exact ⟨Nat.zero_le _, by simp, fun _ => ⟨outside, Or.inl (by simp)⟩⟩
  | case6 i c errno done room =>
    refine ⟨history, rfl, ⟨[], by simp⟩, by simp, ?_⟩
    intro _
    exact scanning.at_length (by omega)

/-- What was taken off the stream between two calls, and what it held. -/
structure Passes (history : List UInt8) (frame : Option Frame) (c' : FrameConn) (h' : Host)
    (taken : List UInt8) : Prop where
  scanning : Scanning taken 0 c'
  stream : taken ++ c'.readBuf = h'.got.flatten
  frames : ∃ passed, framesIn none taken = framesIn none history ++ passed ++ frame.toList ∧
    ∀ future, ¬ LosesFrame (h'.got.flatten ++ future) → passed = []

/-- One scan of the buffer. -/
theorem nextFrame_passes {history : List UInt8} {c c' : FrameConn} {errno errno' : Errno}
    {frame : Option Frame} (scanning : Scanning history 0 c)
    (run : nextFrame c errno = (frame, c', errno')) :
    ∃ taken passed, history ++ c.readBuf = taken ++ c'.readBuf ∧
      framesIn none taken = framesIn none history ++ passed ++ frame.toList ∧
      (∀ future, ¬ LosesFrame (history ++ c.readBuf ++ future) → passed = []) ∧
      Scanning taken 0 c' := by
  obtain ⟨taken, result⟩ := nextFrameLoop_passes errno scanning
  rw [← nextFrame, run] at result
  obtain ⟨passed, frames⟩ := result.frames
  refine ⟨taken, passed, result.split, frames, ?_, ?_⟩
  · intro future kept
    obtain ⟨taken', exact⟩ := nextFrame_spec scanning kept run
    have same : taken' = taken := List.append_cancel_right (exact.split.symm.trans result.split)
    have none_passed := exact.frames
    rw [same, frames, List.append_assoc, List.append_cancel_left_eq] at none_passed
    exact List.self_eq_append_left.mp none_passed.symm
  · cases frame with
    | none =>
      have ended := result.scanning rfl
      have again := ended.rescan [] (by simpa using ended.fits)
      simp only [List.append_nil] at again
      exact again
    | some frame =>
      obtain ⟨stopped, outside⟩ := result.found rfl
      have shorter := nextFrame_length run
      refine ⟨?_, ?_, fun _ => ⟨outside, Or.inl (by simp)⟩⟩
      · have fits := scanning.fits
        omega
      · intro started
        rw [stopped] at started
        cases started

/-- A scan that ends the call, behind reads that gave nothing. -/
theorem passes_of_scan {history : List UInt8} {c c' : FrameConn} {h h' : Host}
    {errno errno' : Errno} {frame : Option Frame} (scanning : Scanning history 0 c)
    (stream : history ++ c.readBuf = h.got.flatten)
    (scanned : nextFrame c errno = (frame, c', errno')) (got : h'.got = h.got) :
    ∃ taken, Passes history frame c' h' taken := by
  obtain ⟨taken, passed, split, frames, none_passed, again⟩ := nextFrame_passes scanning scanned
  rw [stream] at split none_passed
  rw [← got] at split none_passed
  exact ⟨taken, again, split.symm, passed, frames, none_passed⟩

/-- One call of `mdr_frameconn_read_frame`, with any outcomes of `read`. -/
theorem readFrame_passes {history : List UInt8} {c c' : FrameConn} {h h' : Host}
    {frame : Option Frame} (scanning : Scanning history 0 c)
    (stream : history ++ c.readBuf = h.got.flatten)
    (run : readFrame c h = some (frame, c', h')) :
    ∃ taken, Passes history frame c' h' taken := by
  fun_induction readFrame c h generalizing history with
  | case1 c h found c₁ errno scanned =>
    cases run
    exact passes_of_scan scanning stream scanned rfl
  | case2 c h c₁ errno scanned failed =>
    cases run
    exact passes_of_scan scanning stream scanned rfl
  | case3 => cases run
  | case4 c h c₁ errno scanned noError e h₁ first =>
    cases run
    exact passes_of_scan scanning stream scanned ((readBytes_got first).trans (List.append_nil _))
  | case5 c h c₁ errno scanned noError bytes h₁ first ih =>
    obtain ⟨taken, passed, split, frames, none_passed, again⟩ := nextFrame_passes scanning scanned
    have room := (nextFrameLoop_room _ _ _ scanned).1
    have short := (readBytes_ok first).1
    have here : h₁.got = h.got ++ [bytes] := readBytes_got first
    have next : Scanning taken 0 { c₁ with readBuf := c₁.readBuf ++ bytes } := by
      refine ⟨?_, fun started => ⟨(again.started started).1, by simp [Delimited.Plain]⟩,
        fun stopped => ⟨(again.stopped stopped).1, Or.inl (by simp)⟩⟩
      rw [List.length_append]
      omega
    have joined : taken ++ (c₁.readBuf ++ bytes) = h₁.got.flatten := by
      rw [here, List.flatten_append, List.flatten_singleton, ← stream, split, List.append_assoc]
    obtain ⟨taken', again', stream', more, frames', none_more⟩ := ih next joined run
    refine ⟨taken', again', stream', passed ++ more, ?_, ?_⟩
    · rw [frames', frames]
      simp [List.append_assoc]
    · intro future kept
      obtain ⟨later, grown⟩ := readFrame_got run
      rw [none_more future kept, List.append_nil]
      refine none_passed (bytes ++ (later.flatten ++ future)) ?_
      rw [stream]
      rw [grown, here] at kept
      simpa [List.flatten_append] using kept

end Libmdr.FrameConn
