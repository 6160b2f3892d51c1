import Libmdr.FrameConn.Stream

/-!
# How much the cutting of a stream matters

A stream that loses no frame gives the same frames however it is cut into `read`
results. Every other stream has a cut that hides a frame: all of it in single
bytes, but for one chunk that holds the invalid body and the frame behind it.
-/

namespace Libmdr.FrameConn
set_option autoImplicit false

/-- The frames that repeated `mdr_frameconn_read_frame` calls return. -/
def received (c : FrameConn) (h : Host) : Option (List Frame) :=
  (readAll c h).map Prod.fst

/-- Any two ways of cutting the stream into non-empty chunks give the same frames. -/
def ChunkingIndependent (stream : List UInt8) : Prop :=
  ∀ (chunks₁ chunks₂ : List (List UInt8)) (h₁ h₂ : Host),
    (∀ chunk ∈ chunks₁, chunk ≠ []) → (∀ chunk ∈ chunks₂, chunk ≠ []) →
    chunks₁.flatten = stream → chunks₂.flatten = stream →
    h₁.reads = Host.chunked chunks₁ → h₂.reads = Host.chunked chunks₂ →
    received fresh h₁ = received fresh h₂

/-! ## One scan at a time -/

theorem received_eq (c : FrameConn) (h : Host) :
    received c h =
      match readFrame c h with
      | none => none
      | some (none, _, _) => some []
      | some (some frame, c, h) => (received c h).map (frame :: ·) := by
  unfold received
  rw [readAll]
  rcases readFrame c h with _ | ⟨_ | frame, c', h'⟩
  · rfl
  · rfl
  · dsimp only
    cases readAll c' h' <;> rfl

/-- A scan that returns a frame comes before the frames of the rest. -/
theorem received_frame {c c' : FrameConn} {h : Host} {frame : Frame} {errno : Errno}
    (scanned : nextFrame c h.errno = (some frame, c', errno)) :
    received c h = (received c' { h with errno }).map (frame :: ·) := by
  rw [received_eq, readFrame_eq, scanned]

/-- A scan without a frame is followed by the next chunk. -/
theorem received_chunk {c c' : FrameConn} {h : Host} {errno : Errno} {chunk : List UInt8}
    {rest : List ReadOutcome} (scanned : nextFrame c h.errno = (none, c', errno))
    (reads : h.reads = .data chunk :: rest)
    (fits : chunk.length ≤ frameBufSize - c'.readBuf.length) :
    ∃ h', h'.reads = rest ∧
      received c h = received { c' with readBuf := c'.readBuf ++ chunk } h' := by
  have noError := (nextFrameLoop_room _ _ _ scanned).2
  have whole : chunk.take (frameBufSize - c'.readBuf.length) = chunk :=
    List.take_of_length_le fits
  refine ⟨{ h with errno := 0, reads := rest, got := h.got ++ [chunk] }, rfl, ?_⟩
  rw [received_eq, readFrame_eq, scanned, received_eq { c' with readBuf := c'.readBuf ++ chunk }]
  simp [readBytes, Host.read, reads, fits, whole, noError]

/-- When `read` would block, the buffer is scanned once more. -/
theorem received_blocked {c c' : FrameConn} {h : Host} {errno : Errno}
    (scanned : nextFrame c h.errno = (none, c', errno)) (reads : h.reads = [.err eagain]) :
    received c h = some [] := by
  have noError := (nextFrameLoop_room _ _ _ scanned).2
  subst noError
  rw [received_eq, readFrame_eq, scanned]
  simp [readBytes, Host.read, reads, eagain, eintr]

/-! ## Byte by byte -/

/-- A buffer that was scanned and holds no delimiter that matters. -/
structure Clean (c : FrameConn) : Prop where
  started : c.readStarted = true → Plain c.readBuf
  stopped : c.readStarted = false → frameStartByte ∉ c.readBuf
  room : c.readBuf.length < frameBufSize

/-- The open body that a clean buffer holds. -/
def opened (c : FrameConn) : Option (List UInt8) :=
  if c.readStarted then some c.readBuf else none

/-- At the end of the buffer the scan gives up, and clears a full buffer. -/
theorem nextFrameLoop_end {i : Nat} {c : FrameConn} {errno : Errno} (done : c.readBuf.length ≤ i) :
    nextFrameLoop i c errno =
      if frameBufSize ≤ c.readBuf.length then
        (none, { c with readBuf := [], readStarted := false }, 0)
      else (none, c, 0) := by
  rw [nextFrameLoop, dif_neg (Nat.not_lt.mpr done)]

/-- The scan passes over bytes that are no delimiters here. -/
theorem nextFrameLoop_pass {seen rest : List UInt8} {i : Nat} {c : FrameConn} (errno : Errno)
    (split : c.readBuf = seen ++ rest) (early : i ≤ seen.length)
    (passed : ∀ b ∈ seen.drop i,
      b ≠ frameStartByte ∧ ¬ (b = frameEndByte ∧ c.readStarted = true)) :
    nextFrameLoop i c errno = nextFrameLoop seen.length c errno := by
  induction left : seen.length - i generalizing i with
  | zero =>
    have reached : i = seen.length := by omega
    rw [reached]
  | succ n ih =>
    have inSeen : i < seen.length := by omega
    have small : i < c.readBuf.length := by
      rw [split, List.length_append]
      omega
    have here : c.readBuf[i] = seen[i] := by
      simp only [split]
      exact List.getElem_append_left inSeen
    rw [List.drop_eq_getElem_cons inSeen] at passed
    obtain ⟨notStart, notEnd⟩ := passed seen[i] List.mem_cons_self
    rw [nextFrameLoop, dif_pos small, here, if_neg notStart, if_neg notEnd]
    exact ih (by omega) (fun b isIn => passed b (List.mem_cons_of_mem _ isIn)) (by omega)

theorem Clean.passed {c : FrameConn} (clean : Clean c) :
    ∀ b ∈ c.readBuf, b ≠ frameStartByte ∧ ¬ (b = frameEndByte ∧ c.readStarted = true) := by
  intro b isIn
  constructor
  · rintro rfl
    cases started : c.readStarted with
    | true => exact (clean.started started).1 isIn
    | false => exact clean.stopped started isIn
  · rintro ⟨rfl, started⟩
    exact (clean.started started).2 isIn

/-- The scan of a clean buffer and more starts with the new bytes. -/
theorem Clean.scan {c : FrameConn} (clean : Clean c) (bytes : List UInt8) (errno : Errno) :
    nextFrame { c with readBuf := c.readBuf ++ bytes } errno =
      nextFrameLoop c.readBuf.length { c with readBuf := c.readBuf ++ bytes } errno :=
  nextFrameLoop_pass errno rfl (Nat.zero_le _) clean.passed

theorem Clean.nextFrame {c : FrameConn} (clean : Clean c) (errno : Errno) :
    nextFrame c errno = (none, c, 0) := by
  have scan := clean.scan [] errno
  rw [List.append_nil] at scan
  rw [scan, nextFrameLoop_end (Nat.le_refl _), if_neg (Nat.not_le.mpr clean.room)]

/-- What a byte does to the open body, and the frame it completes. -/
theorem openBody_single (s : Option (List UInt8)) (b : UInt8) :
    openBody s [b] = (Delimited.step wire s b).1 ∧
      framesIn s [b] = (Delimited.step wire s b).2.filterMap unescapeFrame := by
  simp [openBody, framesIn, bodiesIn]

theorem clean_empty (c : FrameConn) (started : Bool) :
    Clean { c with readBuf := [], readStarted := started } where
  started := fun _ => by simp [Delimited.Plain]
  stopped := fun _ => by simp
  room := by
    change 0 < frameBufSize
    decide

theorem opened_eq_some_nil {c : FrameConn} (open_ : opened c = some []) :
    c.readStarted = true ∧ c.readBuf = [] := by
  unfold opened at open_
  split at open_
  · rename_i started
    exact ⟨started, Option.some.inj open_⟩
  · cases open_

/-- A byte that is no delimiter here joins a clean buffer that has room for it. -/
theorem Clean.push {c : FrameConn} (clean : Clean c) {b : UInt8} (notStart : b ≠ frameStartByte)
    (notEnd : ¬ (b = frameEndByte ∧ c.readStarted = true))
    (room : c.readBuf.length + 1 < frameBufSize) :
    Clean { c with readBuf := c.readBuf ++ [b] } where
  started := fun started => by
    refine (clean.started started).append ?_
    have notEnd : b ≠ frameEndByte := fun ends => notEnd ⟨ends, started⟩
    simp [Delimited.Plain, wire, Ne.symm notStart, Ne.symm notEnd]
  stopped := fun stopped => by
    have absent := clean.stopped stopped
    simp [absent, Ne.symm notStart]
  room := by simpa using room

/-- The scan of the last byte of the buffer. -/
theorem nextFrameLoop_last {c : FrameConn} {seen : List UInt8} {b : UInt8} (errno : Errno)
    (split : c.readBuf = seen ++ [b]) :
    nextFrameLoop seen.length c errno =
      if b = frameStartByte then (none, { c with readBuf := [], readStarted := true }, 0)
      else if b = frameEndByte ∧ c.readStarted = true then
        match unescapeFrame seen with
        | some frame => (some frame, { c with readBuf := [], readStarted := false }, errno)
        | none => (none, { c with readBuf := [], readStarted := false }, 0)
      else if frameBufSize ≤ seen.length + 1 then
        (none, { c with readBuf := [], readStarted := false }, 0)
      else (none, c, 0) := by
  have length : c.readBuf.length = seen.length + 1 := by rw [split]; simp
  have small : seen.length < c.readBuf.length := by omega
  have here : c.readBuf[seen.length] = b := by simp only [split, List.getElem_concat_length]
  have before : c.readBuf.take seen.length = seen := by rw [split, List.take_left]
  have behind : c.readBuf.drop (seen.length + 1) = [] := List.drop_of_length_le (by omega)
  have empty : ¬ frameBufSize ≤ ([] : List UInt8).length := by decide
  rw [nextFrameLoop, dif_pos small, here, before, behind]
  split_ifs with isStart isEnd full
  · rw [nextFrameLoop_end (Nat.zero_le _), if_neg empty]
  · cases unescapeFrame seen with
    | some frame => rfl
    | none =>
      dsimp only
      rw [nextFrameLoop_end (Nat.zero_le _), if_neg empty]
  · rw [nextFrameLoop_end (by omega), if_pos (by omega)]
  · rw [nextFrameLoop_end (by omega), if_neg (by omega)]

/-- One more byte takes the scanner one step of the ideal scanner. -/
theorem Clean.byte {c : FrameConn} (clean : Clean c) (b : UInt8) (errno : Errno) :
    ∃ frame c' errno',
      FrameConn.nextFrame { c with readBuf := c.readBuf ++ [b] } errno = (frame, c', errno') ∧
      Clean c' ∧ opened c' = openBody (opened c) [b] ∧ frame.toList = framesIn (opened c) [b] := by
  rw [clean.scan, nextFrameLoop_last errno rfl, (openBody_single _ b).1, (openBody_single _ b).2]
  split_ifs with isStart isEnd full
  · have step : Delimited.step wire (opened c) b = (some [], []) := by
      rw [isStart]
      exact Delimited.step_start _
    rw [step]
    exact ⟨_, _, _, rfl, clean_empty c true, rfl, rfl⟩
  · have started : c.readStarted = true := isEnd.2
    have step : Delimited.step wire (opened c) b = (none, [c.readBuf]) := by
      rw [isEnd.1, opened, if_pos started]
      exact Delimited.step_some_stop _
    rw [step]
    cases valid : unescapeFrame c.readBuf with
    | some frame =>
      exact ⟨_, _, _, rfl, clean_empty c false, rfl, by simp [valid]⟩
    | none =>
      exact ⟨_, _, _, rfl, clean_empty c false, rfl, by simp [valid]⟩
  · have step : Delimited.step wire (opened c) b = (none, []) := by
      cases started : c.readStarted with
      | true =>
        rw [opened, if_pos started, Delimited.step_some_of_ne _ isStart fun ends => isEnd ⟨ends, started⟩]
        exact if_pos full
      | false =>
        rw [opened, started, if_neg Bool.false_ne_true]
        exact Delimited.step_none_of_ne isStart
    rw [step]
    exact ⟨_, _, _, rfl, clean_empty c false, rfl, rfl⟩
  · refine ⟨_, _, _, rfl, clean.push isStart isEnd (by omega), ?_⟩
    cases started : c.readStarted with
    | true =>
      have step : Delimited.step wire (some c.readBuf) b = (some (c.readBuf ++ [b]), []) := by
        rw [Delimited.step_some_of_ne _ isStart fun ends => isEnd ⟨ends, started⟩]
        exact if_neg full
      rw [opened, opened, started, if_pos rfl, if_pos rfl, step]
      exact ⟨rfl, rfl⟩
    | false =>
      have step : Delimited.step wire none b = (none, []) := Delimited.step_none_of_ne isStart
      rw [opened, opened, started, if_neg Bool.false_ne_true, if_neg Bool.false_ne_true, step]
      exact ⟨rfl, rfl⟩

/-- A scan that ends in a clean buffer leaves what a scan of that buffer starts from. -/
theorem received_none {c c' : FrameConn} {h : Host} {errno : Errno}
    (scanned : nextFrame c h.errno = (none, c', errno)) (clean : Clean c') :
    received c h = received c' h := by
  have noError := (nextFrameLoop_room _ _ _ scanned).2
  rw [received_eq, readFrame_eq, scanned, received_eq c', readFrame_eq c', clean.nextFrame, noError]

/-- One byte that arrives: the frame that it completes, and a clean buffer again. -/
theorem received_byte {b : UInt8} {c : FrameConn} {h : Host} {more : List ReadOutcome}
    (clean : Clean c) (reads : h.reads = .data [b] :: more) :
    ∃ c' h', Clean c' ∧ opened c' = openBody (opened c) [b] ∧ h'.reads = more ∧
      received c h = (received c' h').map (framesIn (opened c) [b] ++ ·) := by
  have room := clean.room
  obtain ⟨h₁, reads₁, arrived⟩ := received_chunk (clean.nextFrame h.errno) reads
    (by rw [List.length_singleton]; omega)
  obtain ⟨frame, c', errno, scanned, clean', opened', one⟩ := clean.byte b h₁.errno
  rw [← one]
  cases frame with
  | some frame =>
    exact ⟨c', { h₁ with errno }, clean', opened', reads₁, arrived.trans (received_frame scanned)⟩
  | none =>
    refine ⟨c', h₁, clean', opened', reads₁, ?_⟩
    rw [arrived, received_none scanned clean']
    simp

/-- Single bytes give the frames that the ideal scanner finds. -/
theorem received_bytes {bytes : List UInt8} {c : FrameConn} {h : Host} {more : List ReadOutcome}
    (clean : Clean c) (reads : h.reads = (bytes.map fun b => .data [b]) ++ more) :
    ∃ c' h', Clean c' ∧ opened c' = openBody (opened c) bytes ∧ h'.reads = more ∧
      received c h = (received c' h').map (framesIn (opened c) bytes ++ ·) := by
  induction bytes generalizing c h with
  | nil => exact ⟨c, h, clean, rfl, reads, by simp⟩
  | cons b rest ih =>
    obtain ⟨c₁, h₁, clean₁, opened₁, reads₁, first⟩ := received_byte clean reads
    obtain ⟨c', h', clean', opened', reads', later⟩ := ih clean₁ reads₁
    refine ⟨c', h', clean', ?_, reads', ?_⟩
    · rw [opened', opened₁, ← openBody_append, List.singleton_append]
    · have split := framesIn_append (opened c) [b] rest
      rw [List.singleton_append, ← opened₁] at split
      rw [first, later, Option.map_map, split]
      congr 1
      funext frames
      simp

/-- A stream that arrives byte by byte. -/
def bytewise (stream : List UInt8) : List (List UInt8) := stream.map fun b => [b]

theorem received_bytewise {stream : List UInt8} {c : FrameConn} {h : Host} (clean : Clean c)
    (reads : h.reads = Host.chunked (bytewise stream)) :
    received c h = some (framesIn (opened c) stream) := by
  have split : h.reads = (stream.map fun b => .data [b]) ++ [.err eagain] := by
    rw [reads, Host.chunked, bytewise, List.map_map]
    rfl
  obtain ⟨c', h', clean', -, reads', all⟩ := received_bytes clean split
  rw [all, received_blocked (clean'.nextFrame h'.errno) reads']
  simp

/-! ## A chunk that hides a frame -/

/-- After an invalid body the scan passes over the bytes it skips, and over what
follows them up to a START. -/
theorem nextFrameLoop_hidden (c : FrameConn) (errno : Errno) {invalid block behind : List UInt8}
    (started : c.readStarted = true) (plain : Plain invalid)
    (isInvalid : unescapeFrame invalid = none)
    (split : c.readBuf = invalid ++ frameEndByte :: (block ++ behind))
    (hidden : frameStartByte ∉ block.drop (invalid.length + 1)) :
    nextFrame c errno =
      nextFrameLoop (max block.length (invalid.length + 1))
        { c with readBuf := block ++ behind, readStarted := false } mdrEInvalidFrame := by
  have small : invalid.length < c.readBuf.length := by
    rw [split, List.length_append, List.length_cons]
    omega
  have here : c.readBuf[invalid.length] = frameEndByte := by
    simp only [split, List.getElem_append_right (Nat.le_refl _), Nat.sub_self, List.getElem_cons_zero]
  have before : c.readBuf.take invalid.length = invalid := by rw [split, List.take_left]
  have after : c.readBuf.drop (invalid.length + 1) = block ++ behind := by
    rw [split, List.drop_append]
    simp
  have reach : nextFrame c errno = nextFrameLoop invalid.length c errno := by
    refine nextFrameLoop_pass errno split (Nat.zero_le _) ?_
    intro b isIn
    rw [List.drop_zero] at isIn
    constructor
    · rintro rfl
      exact plain.1 isIn
    · rintro ⟨rfl, -⟩
      exact plain.2 isIn
  rw [reach, nextFrameLoop, dif_pos small, here, before, after]
  rw [if_neg (by decide), if_pos ⟨rfl, started⟩, isInvalid]
  rcases Nat.le_total (invalid.length + 1) block.length with long | short
  · rw [Nat.max_eq_left long]
    refine nextFrameLoop_pass _ rfl long ?_
    intro b isIn
    constructor
    · rintro rfl
      exact hidden isIn
    · rintro ⟨-, still⟩
      cases still
  · rw [Nat.max_eq_right short]

theorem framesIn_length_pos (s : Option (List UInt8)) (before behind : List UInt8)
    {valid : List UInt8} (plain : Plain valid) (isValid : (unescapeFrame valid).isSome)
    (fits : valid.length < frameBufSize) :
    0 < (framesIn s (before ++ frameStartByte :: valid ++ frameEndByte :: behind)).length := by
  have found : valid ∈ bodiesIn s (before ++ frameStartByte :: valid ++ frameEndByte :: behind) :=
    Delimited.mem_bodies_of_delimited s before behind plain fits
  obtain ⟨frame, decoded⟩ := Option.isSome_iff_exists.mp isValid
  exact List.length_pos_of_mem (List.mem_filterMap.mpr ⟨valid, found, decoded⟩)

/-- Behind an open body, a chunk with an invalid body and a frame that starts
among the bytes skipped gives no frame. -/
theorem received_hidden {c : FrameConn} {h : Host} {invalid block behind : List UInt8}
    (clean : Clean c) (open_ : opened c = some []) (plain : Plain invalid)
    (isInvalid : unescapeFrame invalid = none)
    (hidden : frameStartByte ∉ block.drop (invalid.length + 1))
    (next : behind = [] ∨
      (∃ rest, behind = frameStartByte :: rest) ∧ invalid.length + 1 ≤ block.length)
    (fits : invalid.length + 1 + block.length + (behind.take 1).length ≤ frameBufSize)
    (reads : h.reads = Host.chunked
      ((invalid ++ frameEndByte :: (block ++ behind.take 1)) :: bytewise (behind.drop 1))) :
    received c h = some (framesIn (some []) (behind.drop 1)) := by
  obtain ⟨started, empty⟩ := opened_eq_some_nil open_
  have length : (invalid ++ frameEndByte :: (block ++ behind.take 1)).length =
      invalid.length + 1 + block.length + (behind.take 1).length := by
    simp only [List.length_append, List.length_cons]
    omega
  obtain ⟨h₁, reads₁, arrived⟩ := received_chunk (clean.nextFrame h.errno) reads
    (by rw [empty, length]; exact fits)
  rw [empty, List.nil_append] at arrived
  have scan := nextFrameLoop_hidden
    { c with readBuf := invalid ++ frameEndByte :: (block ++ behind.take 1) } h₁.errno
    started plain isInvalid rfl hidden
  rw [arrived]
  rcases next with rfl | ⟨⟨rest, rfl⟩, long⟩
  · have reached : (block ++ ([] : List UInt8).take 1).length ≤
        max block.length (invalid.length + 1) := by
      rw [List.take_nil, List.append_nil]
      exact Nat.le_max_left _ _
    rw [nextFrameLoop_end reached, if_neg] at scan
    · exact received_blocked scan reads₁
    · simp only [List.take_nil, List.append_nil]
      omega
  · rw [Nat.max_eq_left long, nextFrameLoop_last _ rfl, if_pos rfl] at scan
    rw [received_none scan (clean_empty c true)]
    exact received_bytewise (clean_empty c true) reads₁

/-! ## The streams that can be cut in any way -/

/-- The cut that hides the frame: single bytes, and one chunk from the invalid
body to the next START. -/
def hidingCut (before invalid block behind : List UInt8) : List (List UInt8) :=
  bytewise (before ++ [frameStartByte]) ++
    (invalid ++ frameEndByte :: (block ++ behind.take 1)) :: bytewise (behind.drop 1)

theorem bytewise_flatten (stream : List UInt8) : (bytewise stream).flatten = stream := by
  rw [bytewise, List.flatten_eq_flatMap, List.flatMap_map]
  simp

theorem bytewise_nonempty (stream : List UInt8) : ∀ chunk ∈ bytewise stream, chunk ≠ [] := by
  intro chunk isIn
  obtain ⟨b, -, rfl⟩ := List.mem_map.mp isIn
  exact List.cons_ne_nil _ _

theorem hidingCut_flatten (before invalid block behind : List UInt8) :
    (hidingCut before invalid block behind).flatten =
      before ++ frameStartByte :: invalid ++ frameEndByte :: block ++ behind := by
  rw [hidingCut, List.flatten_append, List.flatten_cons, bytewise_flatten, bytewise_flatten]
  simp only [List.append_assoc, List.cons_append, List.nil_append, List.take_append_drop]

theorem hidingCut_nonempty (before invalid block behind : List UInt8) :
    ∀ chunk ∈ hidingCut before invalid block behind, chunk ≠ [] := by
  intro chunk isIn
  rcases List.mem_append.mp isIn with front | rest
  · exact bytewise_nonempty _ _ front
  · rcases List.mem_cons.mp rest with rfl | tail
    · simp
    · exact bytewise_nonempty _ _ tail

theorem clean_fresh : Clean fresh := clean_empty fresh false

/-- A connection that has seen nothing, and chunks to come. -/
def hostOf (chunks : List (List UInt8)) : Host :=
  { errno := 0, reads := Host.chunked chunks, writes := [], mallocs := 0, wire := [], got := [] }

/-- The cut hides every frame between the invalid body and the next START. -/
theorem received_hidingCut {before invalid block behind : List UInt8} (plain : Plain invalid)
    (isInvalid : unescapeFrame invalid = none)
    (hidden : frameStartByte ∉ block.drop (invalid.length + 1))
    (next : behind = [] ∨
      (∃ rest, behind = frameStartByte :: rest) ∧ invalid.length + 1 ≤ block.length)
    (fits : invalid.length + 1 + block.length + (behind.take 1).length ≤ frameBufSize) :
    received fresh (hostOf (hidingCut before invalid block behind)) =
      some (framesIn none (before ++ [frameStartByte]) ++
        framesIn (some []) (behind.drop 1)) := by
  have reads : (hostOf (hidingCut before invalid block behind)).reads =
      ((before ++ [frameStartByte]).map fun b => .data [b]) ++ Host.chunked
        ((invalid ++ frameEndByte :: (block ++ behind.take 1)) :: bytewise (behind.drop 1)) := by
    simp [hostOf, Host.chunked, hidingCut, bytewise]
  obtain ⟨c, h, clean, open_, reads', front⟩ := received_bytes clean_fresh reads
  have inside : opened c = some [] := open_.trans (at_start none before).1
  rw [front, received_hidden clean inside plain isInvalid hidden next fits reads']
  rfl

/-- The stream holds more frames than the cut shows. -/
theorem framesIn_hidden (before invalid between trailing : List UInt8) {valid behind : List UInt8}
    (plain : Plain valid) (isValid : (unescapeFrame valid).isSome)
    (short : valid.length < frameBufSize)
    (next : behind = [] ∨ ∃ rest, behind = frameStartByte :: rest) :
    (framesIn none (before ++ [frameStartByte]) ++ framesIn (some []) (behind.drop 1)).length <
      (framesIn none (before ++ frameStartByte :: invalid ++ frameEndByte ::
        (between ++ frameStartByte :: valid ++ frameEndByte :: trailing) ++ behind)).length := by
  generalize middle : invalid ++ frameEndByte :: between ++ frameStartByte :: valid ++
    frameEndByte :: trailing = bytes
  have positive : 0 < (framesIn (some []) bytes).length := by
    rw [← middle]
    exact framesIn_length_pos _ _ _ plain isValid short
  have split : before ++ frameStartByte :: invalid ++ frameEndByte ::
      (between ++ frameStartByte :: valid ++ frameEndByte :: trailing) ++ behind =
      (before ++ [frameStartByte]) ++ (bytes ++ behind) := by
    simp [← middle]
  rw [split, framesIn_append none (before ++ [frameStartByte]), (at_start none before).1,
    framesIn_append (some []), List.length_append, List.length_append, List.length_append]
  rcases next with rfl | ⟨rest, rfl⟩
  · simp only [List.drop_nil, framesIn_nil, List.length_nil]
    omega
  · rw [framesIn_start, List.drop_one, List.tail_cons]
    omega

/-- **When the cutting of a stream does not matter.** Any two ways of cutting a
stream give the same frames exactly when the stream loses no frame. -/
theorem chunkingIndependent_iff (stream : List UInt8) :
    ChunkingIndependent stream ↔ ¬ LosesFrame stream := by
  constructor
  · rintro independent ⟨before, invalid, between, valid, trailing, behind, split, plain, isInvalid,
      validPlain, isValid, hidden, next, fits⟩
    have short : valid.length < frameBufSize := by
      simp only [List.length_append, List.length_cons] at fits
      omega
    have same := independent (bytewise stream) (hidingCut before invalid _ behind)
      (hostOf _) (hostOf _) (bytewise_nonempty _) (hidingCut_nonempty _ _ _ _) (bytewise_flatten _)
      (by rw [hidingCut_flatten]; exact split.symm) rfl rfl
    rw [received_bytewise clean_fresh rfl, received_hidingCut plain isInvalid hidden next fits] at same
    have fewer := framesIn_hidden before invalid between trailing validPlain isValid short
      (next.imp_right And.left)
    rw [← split, ← Option.some.inj same] at fewer
    exact absurd fewer (Nat.lt_irrefl _)
  · intro kept chunks₁ chunks₂ h₁ h₂ _ _ flat₁ flat₂ reads₁ reads₂
    rw [← flat₁] at kept
    obtain ⟨c₁, h₁', run₁⟩ := readAll_chunked reads₁ kept
    rw [flat₁, ← flat₂] at kept
    obtain ⟨c₂, h₂', run₂⟩ := readAll_chunked reads₂ kept
    rw [received, received, run₁, run₂, flat₁, flat₂]
    rfl

/-- An empty body and the frame right behind it: in one chunk the frame is not seen. -/
theorem not_chunkingIndependent_empty_body :
    ¬ ChunkingIndependent [0x3e, 0x3c, 0x3e, 1, 0, 0, 0, 0, 0, 1, 0x3c] := by
  intro independent
  have same := independent [[0x3e, 0x3c, 0x3e, 1, 0, 0, 0, 0, 0, 1, 0x3c]]
    [[0x3e, 0x3c], [0x3e, 1, 0, 0, 0, 0, 0, 1, 0x3c]] (hostOf _) (hostOf _)
    (by decide) (by decide) rfl rfl rfl rfl
  revert same
  decide +kernel

end Libmdr.FrameConn
