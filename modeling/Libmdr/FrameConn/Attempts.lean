import Libmdr.FrameConn.Blocking
import Libmdr.FrameConn.Roundtrip

/-!
# Attempts to write a frame

A call of `mdr_frameconn_write_frame` gives the socket the first bytes of the escaped frame:
none of them, some, or all. As long as no call leaves bytes in the write buffer, what the socket
has accepted is one such piece for each call. A piece that breaks off is dropped by the scanner
at the next START byte, so that a peer reads the frames whose call returned 0, and nothing else.
-/

namespace Libmdr.FrameConn
set_option autoImplicit false

/-! ## One call -/

/-- The bytes that a call gives the socket of its frame. -/
structure Gave (frame : Frame) (result : Int) (piece : List UInt8) : Prop where
  start : piece <+: escaped frame
  whole : result = 0 ↔ piece = escaped frame
  result : result = 0 ∨ result = -1
  /-- A frame that does not fit in the write buffer is refused. -/
  fits : piece ≠ [] → (escaped frame).length ≤ frameBufSize

section Call

variable {heap : Heap} {c c' : FrameConn} {h h' : Host} {frame : Frame} {result : Int}

/-- A flush leaves the write buffer as it is. -/
theorem flushWrite_writeBuf (run : flushWrite c h = some (result, c', h')) : c' = c := by
  by_cases none : c.writeBuf = []
  · rw [flushWrite_empty none] at run
    cases run
    rfl
  · exact (flushWrite_pending none run).2.1

/-- Bytes that are pending stay in the write buffer, in front of those that a call adds. -/
theorem writeFrame_pending (run : writeFrame heap c h frame = some (result, c', h')) :
    c.writeBuf <+: c'.writeBuf := by
  obtain ⟨-, -, -, ⟨-, -, rfl, -⟩ | ⟨h₂, -, -, -, loop⟩⟩ := writeFrame_cases run
  · exact List.prefix_refl _
  · obtain ⟨sent, left, -, -, ending⟩ := writeFrameLoop_end loop
    cases ending with
    | written _ same => exact same ▸ List.prefix_refl _
    | blocked _ buffered =>
      rw [buffered]
      exact List.prefix_append _ _
    | failed _ same => exact same ▸ List.prefix_refl _

theorem writeFrame_gave (run : writeFrame heap c h frame = some (result, c', h'))
    (drained : c'.writeBuf = []) :
    ∃ piece, h'.wire = h.wire ++ piece ∧ Gave frame result piece := by
  have empty : c.writeBuf = [] := by
    have pending := writeFrame_pending run
    rw [drained] at pending
    exact List.prefix_nil.mp pending
  obtain ⟨flushed, h₁, flush, untouched | ⟨h₂, wire, tried, -, loop⟩⟩ := writeFrame_cases run
  · rw [flushWrite_empty empty] at flush
    cases flush
    obtain ⟨-, rfl, -, wire⟩ := untouched
    refine ⟨[], by rw [wire, List.append_nil], List.nil_prefix, ?_, .inr rfl,
      fun some => absurd rfl some⟩
    exact iff_of_false (by decide) (escaped_ne_nil frame).symm
  · rw [flushWrite_empty empty] at flush
    cases flush
    obtain ⟨sent, left, split, sentWire, ending⟩ := writeFrameLoop_end loop
    rw [List.drop_zero] at split
    refine ⟨sent, by rw [sentWire, wire], ⟨left, split.symm⟩, ?_, ?_, fun _ => ?_⟩
    · have whole : sent = escaped frame ↔ left = [] := by
        rw [split, List.self_eq_append_right]
      rw [whole]
      cases ending with
      | written all => exact iff_of_true rfl all
      | blocked some => exact iff_of_false (by decide) some
      | failed some => exact iff_of_false (by decide) some
    · cases ending with
      | written => exact .inl rfl
      | blocked => exact .inr rfl
      | failed => exact .inr rfl
    · have room := tried.2
      rw [empty, List.length_nil, Nat.sub_zero] at room
      exact room

end Call

/-! ## Reading in between -/

section Reading

variable {c c' : FrameConn} {h h' : Host}

theorem nextFrameLoop_writeBuf (i : Nat) (c : FrameConn) (errno : Errno) :
    (nextFrameLoop i c errno).2.1.writeBuf = c.writeBuf := by
  fun_induction nextFrameLoop i c errno with
  | case1 _ _ _ _ _ ih => exact ih
  | case2 => rfl
  | case3 _ _ _ _ _ _ _ _ ih => exact ih
  | case4 _ _ _ _ _ _ ih => exact ih
  | case5 => rfl
  | case6 => rfl

theorem nextFrame_writeBuf {errno errno' : Errno} {frame : Option Frame}
    (scanned : nextFrame c errno = (frame, c', errno')) : c'.writeBuf = c.writeBuf := by
  have same := nextFrameLoop_writeBuf 0 c errno
  rwa [← nextFrame, scanned] at same

theorem readBytes_wire {n : Nat} {r : Except Errno (List UInt8)}
    (run : readBytes h n = some (r, h')) : h'.wire = h.wire := by
  have read {h₁ h₂ : Host} {r : Except Errno (List UInt8)} (run : h₁.read n = some (r, h₂)) :
      h₂.wire = h₁.wire := by
    unfold Host.read at run
    split at run <;> cases run <;> rfl
  fun_induction readBytes h n with
  | case1 => cases run
  | case2 h h₁ first ih => exact (ih run).trans (read first)
  | case3 h e h₁ first =>
    cases run
    exact read first
  | case4 h bytes h₁ first =>
    cases run
    exact read first

/-- `mdr_frameconn_read_frame` leaves the write side alone. -/
theorem readFrame_sameWriting {frame : Option Frame}
    (run : readFrame c h = some (frame, c', h')) :
    c'.writeBuf = c.writeBuf ∧ h'.wire = h.wire := by
  fun_induction readFrame c h with
  | case1 c h found c₁ errno scanned =>
    cases run
    exact ⟨nextFrame_writeBuf scanned, rfl⟩
  | case2 c h c₁ errno scanned =>
    cases run
    exact ⟨nextFrame_writeBuf scanned, rfl⟩
  | case3 => cases run
  | case4 c h c₁ errno scanned noError e h₁ first =>
    have kept := readBytes_wire first
    cases run
    exact ⟨nextFrame_writeBuf scanned, kept⟩
  | case5 c h c₁ errno scanned noError bytes h₁ first ih =>
    obtain ⟨writeBuf, wire⟩ := ih run
    have scannedOnly := nextFrame_writeBuf scanned
    have kept := readBytes_wire first
    exact ⟨writeBuf.trans scannedOnly, wire.trans kept⟩

end Reading

/-! ## What a peer finds -/

/-- On the wire a well-formed frame is its body between START and END. -/
theorem escaped_of_wellFormed {frame : Frame} (wf : frame.WellFormed) :
    escaped frame = Delimited.delimit wire (escapedBody frame) := by
  have length := Frame.bytes_length_of_wellFormed wf
  rw [escaped, ← length, List.take_length]
  rfl

/-- The piece of a call holds the frame, or nothing. -/
theorem Gave.bodies {frame : Frame} {result : Int} {piece : List UInt8}
    (gave : Gave frame result piece) (wf : frame.WellFormed) (s : Option (List UInt8)) :
    bodiesIn s piece = if result = 0 then [escapedBody frame] else [] := by
  have whole : (result = 0) = (piece = escaped frame) := propext gave.whole
  simp only [whole]
  by_cases some : piece = []
  · rw [some, if_neg (escaped_ne_nil frame).symm]
    rfl
  · have start := gave.start
    have fits := gave.fits some
    rw [escaped_of_wellFormed wf] at start fits ⊢
    refine Delimited.bodies_of_prefix s (escapedBody_plain frame) ?_ start
    simp only [Delimited.delimit, List.cons_append, List.length_cons, List.length_append,
      List.length_nil] at fits
    exact Nat.lt_of_lt_of_le (by omega) fits

/-- The frames that were written whole. -/
def writtenWhole (attempts : List (Frame × Int)) : List Frame :=
  attempts.filterMap fun attempt => if attempt.2 = 0 then some attempt.1 else none

/-- The stream of the pieces holds the bodies of the frames that were written whole. -/
theorem bodies_of_attempts {attempts : List (Frame × Int)} {pieces : List (List UInt8)}
    (gave : List.Forall₂ (fun attempt piece => Gave attempt.1 attempt.2 piece) attempts pieces)
    (wf : ∀ attempt ∈ attempts, attempt.1.WellFormed) (s : Option (List UInt8)) :
    bodiesIn s pieces.flatten = (writtenWhole attempts).map escapedBody := by
  induction gave generalizing s with
  | nil => rfl
  | @cons attempt piece attempts pieces first _ ih =>
    have later := ih (fun other isIn => wf other (List.mem_cons_of_mem _ isIn)) (openBody s piece)
    rw [List.flatten_cons, bodiesIn_append, later, first.bodies (wf attempt List.mem_cons_self)]
    by_cases zero : attempt.2 = 0
    · have whole : writtenWhole (attempt :: attempts) = attempt.1 :: writtenWhole attempts :=
        List.filterMap_cons_some (if_pos zero)
      rw [if_pos zero, whole]
      rfl
    · have cut : writtenWhole (attempt :: attempts) = writtenWhole attempts :=
        List.filterMap_cons_none (if_neg zero)
      rw [if_neg zero, cut]
      rfl

theorem results_of_gave {attempts : List (Frame × Int)} {pieces : List (List UInt8)}
    (gave : List.Forall₂ (fun attempt piece => Gave attempt.1 attempt.2 piece) attempts pieces) :
    ∀ attempt ∈ attempts, attempt.2 = 0 ∨ attempt.2 = -1 := by
  induction gave with
  | nil => exact fun _ isIn => by cases isIn
  | cons first _ ih => exact List.forall_mem_cons.mpr ⟨first.result, ih⟩

/-- The stream of the pieces holds the frames that were written whole, and loses none. -/
theorem frames_of_attempts {attempts : List (Frame × Int)} {pieces : List (List UInt8)}
    (gave : List.Forall₂ (fun attempt piece => Gave attempt.1 attempt.2 piece) attempts pieces)
    (wf : ∀ attempt ∈ attempts, attempt.1.WellFormed) :
    framesIn none pieces.flatten = writtenWhole attempts ∧ ¬ LosesFrame pieces.flatten := by
  have bodies := bodies_of_attempts gave wf none
  have wholeWf : ∀ frame ∈ writtenWhole attempts, frame.WellFormed := by
    intro frame isIn
    obtain ⟨attempt, isAttempt, isWhole⟩ := List.mem_filterMap.mp isIn
    split at isWhole <;> cases isWhole
    exact wf attempt isAttempt
  constructor
  · have inverse : ∀ frame ∈ writtenWhole attempts,
        (unescapeFrame ∘ escapedBody) frame = some frame :=
      fun frame isIn => unescapeFrame_escape (wholeWf frame isIn)
    rw [framesIn, bodies, List.filterMap_map, List.filterMap_congr inverse]
    exact List.filterMap_some
  · apply keeps_of_bodies_valid
    intro body isBody
    rw [bodies] at isBody
    obtain ⟨frame, isIn, rfl⟩ := List.mem_map.mp isBody
    rw [unescapeFrame_escape (wholeWf frame isIn)]
    rfl

/-- A new connection that reads the stream of the pieces, cut into chunks in any way, gets the
frames that were written whole. -/
theorem readAll_of_attempts {attempts : List (Frame × Int)} {pieces chunks : List (List UInt8)}
    {h : Host}
    (gave : List.Forall₂ (fun attempt piece => Gave attempt.1 attempt.2 piece) attempts pieces)
    (wf : ∀ attempt ∈ attempts, attempt.1.WellFormed) (cut : chunks.flatten = pieces.flatten)
    (reads : h.reads = Host.chunked chunks) :
    ∃ c' h', readAll fresh h = some (writtenWhole attempts, c', h') := by
  obtain ⟨found, kept⟩ := frames_of_attempts gave wf
  rw [← cut] at found kept
  rw [← found]
  exact readAll_chunked reads kept

end Libmdr.FrameConn
