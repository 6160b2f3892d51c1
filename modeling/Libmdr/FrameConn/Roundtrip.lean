import Libmdr.FrameConn.Stream

/-!
# Frames through the wire

What `mdr_frameconn_escape_frame` writes for a list of frames, cut into chunks in
any way, is read back as these frames.
-/

namespace Libmdr.FrameConn
set_option autoImplicit false

/-- The bytes between the START and the END byte of a frame on the wire. -/
abbrev escapedBody (frame : Frame) : List UInt8 := frame.bytes.flatMap escapeByte

theorem escapedBody_plain (frame : Frame) : Plain (escapedBody frame) :=
  not_mem_escape frame.bytes

/-- A frame whose escaped form fits in the read buffer, and whose length field is true. -/
structure Sendable (frame : Frame) : Prop where
  body : frame.body.length = frame.payloadLength.toNat + 1
  fits : (escapedBody frame).length + 2 ≤ frameBufSize

theorem length_le_escape (bytes : List UInt8) : bytes.length ≤ (bytes.flatMap escapeByte).length := by
  induction bytes with
  | nil => exact Nat.le_refl _
  | cons b rest ih =>
    have one : 1 ≤ (escapeByte b).length := by
      unfold escapeByte
      split <;> simp
    rw [List.flatMap_cons, List.length_append, List.length_cons]
    omega

theorem Sendable.wellFormed {frame : Frame} (sendable : Sendable frame) : frame.WellFormed where
  body := sendable.body
  length := by
    have short := length_le_escape frame.bytes
    have fits := sendable.fits
    rw [Frame.bytes_length, sendable.body] at short
    simp only [escapedBody, frameBufSize] at fits
    omega

/-- On the wire a sendable frame is its body between START and END. -/
theorem Sendable.escaped_eq {frame : Frame} (sendable : Sendable frame) :
    escaped frame = frameStartByte :: escapedBody frame ++ [frameEndByte] := by
  have length := Frame.bytes_length_of_wellFormed sendable.wellFormed
  rw [escaped, ← length, List.take_length]

/-- The stream of the frames holds exactly their bodies. -/
theorem bodies_escaped {frames : List Frame} (sendable : ∀ frame ∈ frames, Sendable frame) :
    openBody none (frames.flatMap escaped) = none ∧
      bodiesIn none (frames.flatMap escaped) = frames.map escapedBody := by
  induction frames with
  | nil => exact ⟨rfl, rfl⟩
  | cons frame rest ih =>
    have first := sendable frame List.mem_cons_self
    have later := ih fun frame isIn => sendable frame (List.mem_cons_of_mem _ isIn)
    have short : (escapedBody frame).length < frameBufSize := by
      have fits := first.fits
      omega
    have found : openBody none (frameStartByte :: escapedBody frame ++ [frameEndByte]) = none ∧
        bodiesIn none (frameStartByte :: escapedBody frame ++ [frameEndByte]) =
          [escapedBody frame] :=
      @Delimited.bodies_delimited _ _ wire none [] _ (escapedBody_plain frame) short
    rw [List.flatMap_cons, first.escaped_eq, openBody_append, bodiesIn_append]
    rw [found.1, found.2, later.1, later.2]
    exact ⟨rfl, rfl⟩

/-- The frames that the stream of the frames holds are these frames. -/
theorem framesIn_escaped {frames : List Frame} (sendable : ∀ frame ∈ frames, Sendable frame) :
    framesIn none (frames.flatMap escaped) = frames := by
  rw [framesIn, (bodies_escaped sendable).2, List.filterMap_map]
  have inverse : ∀ frame ∈ frames, (unescapeFrame ∘ escapedBody) frame = some frame :=
    fun frame isIn => unescapeFrame_escape (sendable frame isIn).wellFormed
  rw [List.filterMap_congr inverse]
  exact List.filterMap_some

/-- Nothing is lost in a stream without invalid bodies. -/
theorem keeps_of_bodies_valid {stream : List UInt8}
    (valid : ∀ body ∈ bodiesIn none stream, (unescapeFrame body).isSome) :
    ¬ LosesFrame stream := by
  rintro ⟨before, invalid, between, body, trailing, behind, rfl, plain, isInvalid, -, -, -, -,
    fits⟩
  have found : invalid ∈ bodiesIn none (before ++ frameStartByte :: invalid ++ frameEndByte ::
      (between ++ frameStartByte :: body ++ frameEndByte :: trailing ++ behind)) :=
    Delimited.mem_bodies_of_delimited none before _ plain
      (by change invalid.length < frameBufSize; omega)
  have isValid := valid invalid (by simpa only [List.append_assoc, List.cons_append] using found)
  rw [isInvalid] at isValid
  cases isValid

theorem keeps_escaped {frames : List Frame} (sendable : ∀ frame ∈ frames, Sendable frame) :
    ¬ LosesFrame (frames.flatMap escaped) := by
  apply keeps_of_bodies_valid
  intro body found
  rw [(bodies_escaped sendable).2] at found
  obtain ⟨frame, isIn, rfl⟩ := List.mem_map.mp found
  rw [unescapeFrame_escape (sendable frame isIn).wellFormed]
  rfl

/-- **The frame connection is a lossless channel.** The outputs of the encoder for
any list of frames that fit, cut into chunks in any way, are read back as exactly
these frames, and then `read` would block. -/
theorem readAll_escaped_frames (frames : List Frame) (outputs chunks : List (List UInt8)) (h : Host)
    (sendable : ∀ frame ∈ frames, Sendable frame)
    (encoded : List.Forall₂ (fun frame output =>
      ∃ heap before after, escapeFrame heap frame before = (some output, after)) frames outputs)
    (cut : chunks.flatten = outputs.flatten) (reads : h.reads = Host.chunked chunks) :
    ∃ c' h', readAll fresh h = some (frames, c', h') := by
  have written : outputs.flatten = frames.flatMap escaped := by
    clear sendable cut
    induction encoded with
    | nil => rfl
    | cons first _ ih =>
      obtain ⟨heap, before, after, run⟩ := first
      rw [List.flatten_cons, List.flatMap_cons, ih, escapeFrame_out run]
  have kept := keeps_escaped sendable
  rw [← written, ← cut] at kept
  have all := readAll_chunked reads kept
  rwa [cut, written, framesIn_escaped sendable] at all

/-- A frame with a reserved payload byte, cut within its escape sequence. -/
theorem readAll_escaped_reserved_payload :
    ∃ c' h', readAll fresh
      { errno := 0, reads := Host.chunked [[0x3e, 0x0c, 1, 0, 0, 0], [1, 0x3d], [0x2e, 0x4c, 0x3c]],
        writes := [], mallocs := 0, wire := [], got := [] } =
      some ([{ dataType := 0x0c, sequenceId := 1, payloadLength := 1, body := [0x3e, 0x4c] }],
        c', h') :=
  readAll_escaped_frames [{ dataType := 0x0c, sequenceId := 1, payloadLength := 1, body := [0x3e, 0x4c] }]
    [[0x3e, 0x0c, 1, 0, 0, 0, 1, 0x3d, 0x2e, 0x4c, 0x3c]]
    [[0x3e, 0x0c, 1, 0, 0, 0], [1, 0x3d], [0x2e, 0x4c, 0x3c]] _
    (by
      intro frame isIn
      rw [List.mem_singleton] at isIn
      subst isIn
      exact ⟨by decide, by decide⟩)
    (.cons ⟨fun _ => some [],
      { errno := 0, reads := [], writes := [], mallocs := 0, wire := [], got := [] }, _, rfl⟩ .nil)
    rfl rfl

end Libmdr.FrameConn
