import Libmdr.FrameConn.Model
import Libmdr.Lib.Delimited

/-!
# What the scanner of the read buffer finds

`Delimited.bodies` says which frames a byte stream holds, one byte at a time and
with no buffer. `mdr_frameconn_next_frame` scans a buffer instead, and after a
body that is no valid frame it goes on at an index that is too far: the `i + 1`
bytes that follow the END byte, as many as the body has and one, are not looked
at. `LosesFrame` is the shape of a stream in which a valid frame can disappear
that way. On every other stream the scanner finds what the stream holds.
-/

namespace Libmdr.FrameConn
set_option autoImplicit false

/-- The format of the stream: START and END bytes, and bodies that fit in the read buffer. -/
def wire : Delimited.Format UInt8 where
  start := frameStartByte
  stop := frameEndByte
  capacity := frameBufSize
  distinct := by decide
  room := by decide

/-- Bytes without START and END. -/
abbrev Plain (body : List UInt8) : Prop := Delimited.Plain wire body

/-- Whether a stream ends inside a body, and the bytes of that body. -/
abbrev openBody (s : Option (List UInt8)) (stream : List UInt8) : Option (List UInt8) :=
  Delimited.after wire s stream

/-- The delimited bodies of a stream. -/
abbrev bodiesIn (s : Option (List UInt8)) (stream : List UInt8) : List (List UInt8) :=
  Delimited.bodies wire s stream

/-- The frames that a stream holds. -/
def framesIn (s : Option (List UInt8)) (stream : List UInt8) : List Frame :=
  (bodiesIn s stream).filterMap unescapeFrame

theorem bodiesIn_append (s : Option (List UInt8)) (xs ys : List UInt8) :
    bodiesIn s (xs ++ ys) = bodiesIn s xs ++ bodiesIn (openBody s xs) ys :=
  Delimited.bodies_append _ _ _

@[simp] theorem framesIn_nil (s : Option (List UInt8)) : framesIn s [] = [] := rfl

theorem framesIn_append (s : Option (List UInt8)) (xs ys : List UInt8) :
    framesIn s (xs ++ ys) = framesIn s xs ++ framesIn (openBody s xs) ys := by
  rw [framesIn, bodiesIn_append, List.filterMap_append]
  rfl

theorem openBody_append (s : Option (List UInt8)) (xs ys : List UInt8) :
    openBody s (xs ++ ys) = openBody (openBody s xs) ys :=
  Transducer.after_append _ _ _ _

/-- Outside a body everything up to the next START is passed over. -/
theorem outside_of_no_start {xs : List UInt8} (absent : frameStartByte ∉ xs) :
    openBody none xs = none ∧ framesIn none xs = [] := by
  have passed : openBody none xs = none ∧ bodiesIn none xs = [] :=
    Delimited.none_of_no_start absent
  exact ⟨passed.1, by rw [framesIn, passed.2]; rfl⟩

/-- Inside a body plain bytes are collected while they fit. -/
theorem inside_of_plain {body : List UInt8} (plain : Plain body)
    (fits : body.length < frameBufSize) :
    openBody (some []) body = some body ∧ framesIn (some []) body = [] := by
  have collected : openBody (some []) body = some body ∧ bodiesIn (some []) body = [] :=
    Delimited.some_of_plain [] plain (by rw [List.length_nil, Nat.zero_add]; exact fits)
  exact ⟨collected.1, by rw [framesIn, collected.2]; rfl⟩

/-- A START byte opens an empty body. -/
theorem at_start (s : Option (List UInt8)) (before : List UInt8) :
    openBody s (before ++ [frameStartByte]) = some [] ∧
      framesIn s (before ++ [frameStartByte]) = framesIn s before := by
  have opened := @Delimited.bodies_start _ _ wire s before
  exact ⟨Delimited.after_start s before, congrArg (List.filterMap unescapeFrame) opened⟩

/-- Behind a START byte it does not matter what came before it. -/
theorem framesIn_start (s : Option (List UInt8)) (rest : List UInt8) :
    framesIn s (frameStartByte :: rest) = framesIn (some []) rest := by
  have split := framesIn_append s [frameStartByte] rest
  have start := at_start s []
  rw [List.nil_append, framesIn_nil] at start
  rw [start.1, start.2] at split
  exact split

/-- A delimited body that fits is a frame of the stream when it is valid. -/
theorem at_end (s : Option (List UInt8)) (before : List UInt8) {body : List UInt8}
    (plain : Plain body) (fits : body.length < frameBufSize) :
    openBody s (before ++ frameStartByte :: body ++ [frameEndByte]) = none ∧
      framesIn s (before ++ frameStartByte :: body ++ [frameEndByte]) =
        framesIn s before ++ (unescapeFrame body).toList := by
  have found := @Delimited.bodies_delimited _ _ wire s before _ plain fits
  refine ⟨found.1, ?_⟩
  have emitted := congrArg (List.filterMap unescapeFrame) found.2
  rw [List.filterMap_append] at emitted
  refine emitted.trans ?_
  cases valid : unescapeFrame body <;> simp [framesIn, valid]

/-- A frame found stands between a START and an END byte. -/
theorem exists_valid_of_framesIn {xs : List UInt8} (found : framesIn none xs ≠ []) :
    ∃ before body behind, xs = before ++ frameStartByte :: body ++ frameEndByte :: behind ∧
      Plain body ∧ (unescapeFrame body).isSome := by
  obtain ⟨frame, inFrames⟩ := List.exists_mem_of_ne_nil _ found
  obtain ⟨body, inBodies, valid⟩ := List.mem_filterMap.mp inFrames
  obtain ⟨before, behind, split, plain, -⟩ := Delimited.mem_bodies inBodies
  exact ⟨before, body, behind, split, plain, by simp [valid]⟩

/-- A stream with a valid frame that the scanner may pass over. After an invalid
body the scanner skips as many bytes as the body has and one; the frame starts
among them, and no START follows them before the end of the stream or before the
START that the scanner sees next. All of this fits in the read buffer. -/
def LosesFrame (stream : List UInt8) : Prop :=
  ∃ before invalid between valid trailing behind,
    stream = before ++ frameStartByte :: invalid ++ frameEndByte ::
      (between ++ frameStartByte :: valid ++ frameEndByte :: trailing) ++ behind ∧
    Plain invalid ∧ unescapeFrame invalid = none ∧ Plain valid ∧ (unescapeFrame valid).isSome ∧
    frameStartByte ∉
      (between ++ frameStartByte :: valid ++ frameEndByte :: trailing).drop (invalid.length + 1) ∧
    (behind = [] ∨
      (∃ rest, behind = frameStartByte :: rest) ∧
        invalid.length + 1 ≤
          (between ++ frameStartByte :: valid ++ frameEndByte :: trailing).length) ∧
    invalid.length + 1 +
      (between ++ frameStartByte :: valid ++ frameEndByte :: trailing).length +
      (behind.take 1).length ≤ frameBufSize

/-- A frame among the bytes `skipped` that the scanner passes over is lost. -/
theorem losesFrame_of_skipped (before : List UInt8) {invalid skipped behind : List UInt8}
    (plain : Plain invalid) (isInvalid : unescapeFrame invalid = none)
    (hidden : frameStartByte ∉ skipped.drop (invalid.length + 1))
    (next : behind = [] ∨
      (∃ rest, behind = frameStartByte :: rest) ∧ invalid.length + 1 ≤ skipped.length)
    (fits : invalid.length + 1 + skipped.length + (behind.take 1).length ≤ frameBufSize)
    (found : framesIn none skipped ≠ []) :
    LosesFrame (before ++ frameStartByte :: invalid ++ frameEndByte :: skipped ++ behind) := by
  obtain ⟨between, valid, trailing, rfl, validPlain, isValid⟩ := exists_valid_of_framesIn found
  exact ⟨before, invalid, between, valid, trailing, behind, rfl, plain, isInvalid, validPlain,
    isValid, hidden, next, fits⟩

/-- The scan at index `i` is past the bytes it skips after an invalid body: that
body ends `history`, and no START was seen since. -/
def Skipping (history : List UInt8) (i : Nat) (c : FrameConn) : Prop :=
  ∃ before invalid, history = before ++ frameStartByte :: invalid ++ [frameEndByte] ∧
    Plain invalid ∧ unescapeFrame invalid = none ∧
    frameStartByte ∉ (c.readBuf.take i).drop (invalid.length + 1) ∧
    (i < c.readBuf.length → invalid.length + 1 ≤ i) ∧
    invalid.length + 1 + c.readBuf.length ≤ frameBufSize

/-- The invariant of the scan: where the stream before the buffer leaves it, and
what the bytes before index `i` are. -/
structure Scanning (history : List UInt8) (i : Nat) (c : FrameConn) : Prop where
  fits : c.readBuf.length ≤ frameBufSize
  started : c.readStarted = true →
    (∃ before, history = before ++ [frameStartByte]) ∧ Plain (c.readBuf.take i)
  stopped : c.readStarted = false →
    openBody none history = none ∧
      (frameStartByte ∉ c.readBuf.take i ∨ Skipping history i c)

/-- The bytes of the buffer before `i` hold no frame when a START or the end of
the stream comes next: they are plain, or the stream loses a frame. -/
theorem framesIn_before {history : List UInt8} (future : List UInt8) {i : Nat} {c : FrameConn}
    (scanning : Scanning history i c) (small : i < frameBufSize) (inside : i ≤ c.readBuf.length)
    (next : c.readBuf.drop i ++ future = [] ∨
      (∃ rest, c.readBuf.drop i ++ future = frameStartByte :: rest) ∧ i < c.readBuf.length)
    (kept : ¬ LosesFrame (history ++ c.readBuf ++ future)) :
    framesIn none (history ++ c.readBuf.take i) = framesIn none history := by
  have taken : (c.readBuf.take i).length = i := by rw [List.length_take]; omega
  rw [framesIn_append]
  cases started : c.readStarted with
  | true =>
    obtain ⟨⟨before, rfl⟩, plain⟩ := scanning.started started
    rw [(at_start none before).1, (inside_of_plain plain (by omega)).2, List.append_nil]
  | false =>
    obtain ⟨outside, absent | ⟨before, invalid, rfl, plain, isInvalid, absent, passed, room⟩⟩ :=
      scanning.stopped started
    · rw [outside, (outside_of_no_start absent).2, List.append_nil]
    · rw [outside]
      by_contra found
      have fits : invalid.length + 1 + (c.readBuf.take i).length +
          ((c.readBuf.drop i ++ future).take 1).length ≤ frameBufSize := by
        rcases next with ended | ⟨⟨rest, starts⟩, less⟩
        · rw [ended, List.take_nil, List.length_nil, taken]
          omega
        · rw [starts, taken]
          simp only [List.take_succ_cons, List.take_zero, List.length_singleton]
          omega
      have loses := losesFrame_of_skipped before plain isInvalid absent
        (next.imp_right fun seen => ⟨seen.1, by rw [taken]; exact passed seen.2⟩) fits
        (by simpa using found)
      have whole : c.readBuf.take i ++ (c.readBuf.drop i ++ future) = c.readBuf ++ future := by
        rw [← List.append_assoc, List.take_append_drop]
      apply kept
      simpa [whole] using loses

/-- A START byte: the scan restarts inside an empty body. -/
theorem Scanning.restart {history : List UInt8} {i : Nat} {c : FrameConn}
    (scanning : Scanning history i c) (small : i < c.readBuf.length) :
    Scanning (history ++ c.readBuf.take i ++ [frameStartByte]) 0
      { c with readBuf := c.readBuf.drop (i + 1), readStarted := true } where
  fits := by
    have fits := scanning.fits
    simp only [List.length_drop]
    omega
  started := fun _ => ⟨⟨_, rfl⟩, by simp [Plain, Delimited.Plain]⟩
  stopped := fun stopped => by cases stopped

/-- The END byte of a body: outside any body again. -/
theorem Scanning.close {history : List UInt8} {i : Nat} {c : FrameConn}
    (scanning : Scanning history i c) (small : i < c.readBuf.length)
    (started : c.readStarted = true) :
    openBody none (history ++ c.readBuf.take i ++ [frameEndByte]) = none ∧
      framesIn none (history ++ c.readBuf.take i ++ [frameEndByte]) =
        framesIn none history ++ (unescapeFrame (c.readBuf.take i)).toList := by
  obtain ⟨⟨before, rfl⟩, plain⟩ := scanning.started started
  have fits := scanning.fits
  have short : (c.readBuf.take i).length < frameBufSize := by
    rw [List.length_take]
    omega
  have found := at_end none before plain short
  rw [(at_start none before).2, List.append_assoc before]
  exact found

/-- The END byte of an invalid body: the scan goes on past the bytes it skips. -/
theorem Scanning.skip {history : List UInt8} {i : Nat} {c : FrameConn}
    (scanning : Scanning history i c) (small : i < c.readBuf.length)
    (started : c.readStarted = true) (isInvalid : unescapeFrame (c.readBuf.take i) = none) :
    Scanning (history ++ c.readBuf.take i ++ [frameEndByte]) (i + 1)
      { c with readBuf := c.readBuf.drop (i + 1), readStarted := false } where
  fits := by
    have fits := scanning.fits
    simp only [List.length_drop]
    omega
  started := fun started => by cases started
  stopped := fun _ => by
    obtain ⟨⟨before, rfl⟩, plain⟩ := scanning.started started
    have fits := scanning.fits
    have taken : (c.readBuf.take i).length = i := by rw [List.length_take]; omega
    refine ⟨(scanning.close small started).1, Or.inr ⟨before, c.readBuf.take i, ?_, plain,
      isInvalid, ?_, fun _ => Nat.le_of_eq (by rw [taken]), ?_⟩⟩
    · rw [List.append_assoc before, List.singleton_append]
    · rw [taken, List.drop_take, Nat.sub_self]
      simp
    · simp only [List.length_drop, taken]
      omega

/-- The scan has reached the end of the buffer. -/
theorem Scanning.at_length {history : List UInt8} {i : Nat} {c : FrameConn}
    (scanning : Scanning history i c) (done : c.readBuf.length ≤ i) :
    Scanning history c.readBuf.length c := by
  have all : c.readBuf.take i = c.readBuf.take c.readBuf.length := by
    rw [List.take_length, List.take_of_length_le done]
  obtain ⟨fits, started, stopped⟩ := scanning
  simp only [all] at started stopped
  refine ⟨fits, started, fun notStarted => ?_⟩
  obtain ⟨outside, absent | ⟨before, invalid, split, plain, isInvalid, absent, -, room⟩⟩ :=
    stopped notStarted
  · exact ⟨outside, Or.inl absent⟩
  · rw [all] at absent
    exact ⟨outside, Or.inr ⟨before, invalid, split, plain, isInvalid, absent,
      fun less => absurd less (Nat.lt_irrefl _), room⟩⟩

/-- A byte that is no delimiter here: the scan moves on. -/
theorem Scanning.advance {history : List UInt8} {i : Nat} {c : FrameConn}
    (scanning : Scanning history i c) (small : i < c.readBuf.length)
    (notStart : c.readBuf[i] ≠ frameStartByte)
    (notEnd : ¬ (c.readBuf[i] = frameEndByte ∧ c.readStarted = true)) :
    Scanning history (i + 1) c where
  fits := scanning.fits
  started := fun started => by
    obtain ⟨starts, plain⟩ := scanning.started started
    refine ⟨starts, ?_⟩
    rw [List.take_succ_eq_append_getElem small]
    apply plain.append
    have other : c.readBuf[i] ≠ frameEndByte := fun ends => notEnd ⟨ends, started⟩
    simp [Delimited.Plain, wire, Ne.symm notStart, Ne.symm other]
  stopped := fun stopped => by
    obtain ⟨outside, why⟩ := scanning.stopped stopped
    refine ⟨outside, ?_⟩
    rcases why with absent | ⟨before, invalid, split, plain, isInvalid, absent, passed, room⟩
    · left
      rw [List.take_succ_eq_append_getElem small, List.mem_append, List.mem_singleton]
      rintro (early | last)
      · exact absent early
      · exact notStart last.symm
    · right
      refine ⟨before, invalid, split, plain, isInvalid, ?_, fun _ => ?_, room⟩
      · rw [List.take_succ_eq_append_getElem small, List.drop_append]
        intro seen
        rcases List.mem_append.mp seen with early | last
        · exact absent early
        · have isLast := List.mem_of_mem_drop last
          rw [List.mem_singleton] at isLast
          exact notStart isLast.symm
      · exact Nat.le_succ_of_le (passed small)

/-- A full buffer in which no frame was found is cleared: the stream is outside any body. -/
theorem Scanning.clear {history : List UInt8} {i : Nat} {c : FrameConn}
    (scanning : Scanning history i c) (done : c.readBuf.length ≤ i)
    (full : frameBufSize ≤ c.readBuf.length) :
    openBody none (history ++ c.readBuf) = none ∧
      framesIn none (history ++ c.readBuf) = framesIn none history := by
  have fits := scanning.fits
  have all : c.readBuf.take i = c.readBuf := List.take_of_length_le done
  rw [framesIn_append, openBody_append]
  cases started : c.readStarted with
  | true =>
    obtain ⟨⟨before, rfl⟩, plain⟩ := scanning.started started
    rw [all] at plain
    have dropped : openBody (some []) c.readBuf = none ∧ bodiesIn (some []) c.readBuf = [] :=
      Delimited.none_of_full plain (Nat.le_antisymm fits full)
    rw [(at_start none before).1]
    refine ⟨dropped.1, ?_⟩
    rw [framesIn, framesIn, dropped.2]
    exact List.append_nil _
  | false =>
    obtain ⟨outside, why⟩ := scanning.stopped started
    rcases why with absent | ⟨before, invalid, rfl, -, -, -, -, room⟩
    · rw [all] at absent
      rw [outside, (outside_of_no_start absent).1, (outside_of_no_start absent).2]
      exact ⟨rfl, List.append_nil _⟩
    · omega

/-- What a scan of the buffer leaves: the frame it returns is the next frame of
the stream, and the bytes it took off the buffer hold no other. -/
structure ScanEnd (history : List UInt8) (c : FrameConn) (frame : Option Frame) (c' : FrameConn)
    (taken : List UInt8) : Prop where
  split : history ++ c.readBuf = taken ++ c'.readBuf
  frames : framesIn none taken = framesIn none history ++ frame.toList
  found : frame.isSome → c'.readStarted = false ∧ openBody none taken = none
  scanning : frame = none → Scanning taken c'.readBuf.length c'

/-- A part of the scan that finds no frame comes before the rest of it. -/
theorem ScanEnd.after {history history₁ taken : List UInt8} {c c₁ c' : FrameConn}
    {frame : Option Frame} (result : ScanEnd history₁ c₁ frame c' taken)
    (split : history ++ c.readBuf = history₁ ++ c₁.readBuf)
    (none_yet : framesIn none history₁ = framesIn none history) :
    ScanEnd history c frame c' taken where
  split := split.trans result.split
  frames := by rw [result.frames, none_yet]
  found := result.found
  scanning := result.scanning

/-- The stream with the byte at index `i` of the buffer set apart. -/
theorem split_at (history : List UInt8) {i : Nat} {c : FrameConn} (small : i < c.readBuf.length) :
    history ++ c.readBuf =
      history ++ c.readBuf.take i ++ [c.readBuf[i]] ++ c.readBuf.drop (i + 1) := by
  rw [List.append_assoc, List.append_assoc, List.singleton_append, List.getElem_cons_drop,
    List.take_append_drop]

/-- The scanner's frame is the next frame of the stream, unless the stream loses one. -/
theorem nextFrameLoop_spec {history : List UInt8} (future : List UInt8) {i : Nat} {c : FrameConn}
    (errno : Errno) (scanning : Scanning history i c) (kept : ¬ LosesFrame (history ++ c.readBuf ++ future)) :
    ∃ taken, ScanEnd history c (nextFrameLoop i c errno).1 (nextFrameLoop i c errno).2.1 taken := by
  fun_induction nextFrameLoop i c errno generalizing history with
  | case1 i c errno small isStart ih =>
    have whole := split_at history small
    rw [isStart] at whole
    have split : c.readBuf.drop i = frameStartByte :: c.readBuf.drop (i + 1) := by
      rw [List.drop_eq_getElem_cons small, isStart]
    have none_yet := framesIn_before future scanning (Nat.lt_of_lt_of_le small scanning.fits)
      (Nat.le_of_lt small) (Or.inr ⟨⟨_, by rw [split, List.cons_append]⟩, small⟩) kept
    obtain ⟨taken, result⟩ := ih (scanning.restart small) (by rw [← whole]; exact kept)
    refine ⟨taken, result.after whole ?_⟩
    rw [(at_start none _).2, none_yet]
  | case2 i c errno small _ isEnd shifted frame =>
    rename_i valid
    have whole := split_at history small
    rw [isEnd.1] at whole
    obtain ⟨outside, frames⟩ := scanning.close small isEnd.2
    refine ⟨_, whole, ?_, fun _ => ⟨rfl, outside⟩, ?_⟩
    · rw [frames, valid]
    · intro absent
      cases absent
  | case3 i c errno small _ isEnd shifted isInvalid =>
    rename_i ih
    have whole := split_at history small
    rw [isEnd.1] at whole
    obtain ⟨outside, frames⟩ := scanning.close small isEnd.2
    obtain ⟨taken, result⟩ := ih (scanning.skip small isEnd.2 isInvalid) (by rw [← whole]; exact kept)
    refine ⟨taken, result.after whole ?_⟩
    rw [frames, isInvalid]
    exact List.append_nil _
  | case4 i c errno small notStart notEnd ih =>
    obtain ⟨taken, result⟩ := ih (scanning.advance small notStart notEnd) kept
    exact ⟨taken, result⟩
  | case5 i c errno done full =>
    obtain ⟨outside, frames⟩ := scanning.clear (by omega) full
    refine ⟨history ++ c.readBuf, by simp, by simpa using frames, by simp, ?_⟩
    intro _
    exact ⟨Nat.zero_le _, by simp, fun _ => ⟨outside, Or.inl (by simp)⟩⟩
  | case6 i c errno done room =>
    refine ⟨history, rfl, by simp, by simp, ?_⟩
    intro _
    exact scanning.at_length (by omega)

theorem nextFrame_spec {history future : List UInt8} {c c' : FrameConn} {errno errno' : Errno}
    {frame : Option Frame} (scanning : Scanning history 0 c)
    (kept : ¬ LosesFrame (history ++ c.readBuf ++ future))
    (run : nextFrame c errno = (frame, c', errno')) :
    ∃ taken, ScanEnd history c frame c' taken := by
  obtain ⟨taken, result⟩ := nextFrameLoop_spec future errno scanning kept
  rw [← nextFrame, run] at result
  exact ⟨taken, result⟩

end Libmdr.FrameConn
