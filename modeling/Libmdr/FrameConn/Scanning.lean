import Libmdr.FrameConn.Leftover

/-!
# What the scanner accepts, and where it gives up

A frame that `mdr_frameconn_unescape_frame` returns lies inside the bytes that it
un-escaped, unless its length wraps. `mdr_frameconn_next_frame` gives up on a buffer
when it finds no frame in it; the frames that it discards on the way leave no trace in
errno, and the bytes behind them that it passes over stay in the buffer unseen.
-/

namespace Libmdr.FrameConn
set_option autoImplicit false

/-! ## Frames inside their buffer -/

/-- The payload length in the un-escaped bytes, when they hold an empty frame at least. -/
def announcedLength : List UInt8 → Option Nat
  | _ :: _ :: l0 :: l1 :: l2 :: l3 :: _ :: _ => some (ofBe32 l0 l1 l2 l3).toNat
  | _ => none

/-- A frame that is returned lies inside the un-escaped bytes, its payload and its
checksum byte inside the allocation. -/
def LiesInside (escaped : List UInt8) : Prop :=
  ∀ frame, unescapeFrame escaped = some frame →
    7 + frame.payloadLength.toNat ≤ (unescapeBytes escaped).length ∧
      frame.payloadLength.toNat + 1 ≤ frame.body.length

/-- The length of a frame wraps when its payload length is within 7 of the top. -/
theorem frameLen_eq (frame : Frame) :
    frame.frameLen = (7 + frame.payloadLength.toNat) % 2 ^ 32 := by
  rw [Frame.frameLen, UInt32.toNat_add]
  rfl

/-- What is returned, for un-escaped bytes that hold an empty frame at least. -/
theorem unescapeFrame_of_announced {escaped : List UInt8} {n : Nat}
    (announced : announcedLength (unescapeBytes escaped) = some n) :
    ∃ frame : Frame, frame.payloadLength.toNat = n ∧
      frame.body.length + 6 = (unescapeBytes escaped).length ∧
      unescapeFrame escaped =
        if (unescapeBytes escaped).length < frame.frameLen then none
        else if frame.frameLen = 0 then none
        else some { frame with body := frame.body.take (frame.frameLen - 6) } := by
  unfold announcedLength at announced
  split at announced
  · rename_i dataType sequenceId l0 l1 l2 l3 b rest unescaped
    refine ⟨⟨dataType, sequenceId, ofBe32 l0 l1 l2 l3, b :: rest⟩, Option.some.inj announced,
      by rw [unescaped]; rfl, ?_⟩
    have length : (unescapeBytes escaped).length = 6 + (b :: rest).length := by
      rw [unescaped]
      simp only [List.length_cons]
      omega
    rw [length, unescapeFrame, unescaped]
    exact if_neg (by simp)
  · cases announced

/-- Fewer bytes are no frame. -/
theorem unescapeFrame_of_short {escaped : List UInt8}
    (short : announcedLength (unescapeBytes escaped) = none) : unescapeFrame escaped = none := by
  unfold unescapeFrame
  split
  · rename_i dataType sequenceId l0 l1 l2 l3 body unescaped
    rw [unescaped] at short
    cases body with
    | nil => exact if_pos (by simp)
    | cons b rest => cases short
  · rfl

/-- A length that does not wrap is compared with the bytes that are there. -/
theorem liesInside_of_announced {escaped : List UInt8}
    (small : ∀ n, announcedLength (unescapeBytes escaped) = some n → n ≤ 2 ^ 32 - 7) :
    LiesInside escaped := by
  intro frame accepted
  cases announced : announcedLength (unescapeBytes escaped) with
  | none =>
    rw [unescapeFrame_of_short announced] at accepted
    cases accepted
  | some n =>
    obtain ⟨found, length, whole, run⟩ := unescapeFrame_of_announced announced
    have bound := small n announced
    have total := frameLen_eq found
    rw [run] at accepted
    by_cases short : (unescapeBytes escaped).length < found.frameLen
    · rw [if_pos short] at accepted
      cases accepted
    rw [if_neg short] at accepted
    by_cases empty : found.frameLen = 0
    · rw [if_pos empty] at accepted
      cases accepted
    rw [if_neg empty] at accepted
    obtain rfl := Option.some.inj accepted
    simp only [List.length_take]
    omega

/-- A length that wraps is at most 6, less than any buffer that is compared with it. -/
theorem not_liesInside {escaped : List UInt8} {n : Nat}
    (announced : announcedLength (unescapeBytes escaped) = some n) (wraps : 2 ^ 32 - 7 < n) :
    ¬ LiesInside escaped := by
  intro inside
  obtain ⟨found, length, whole, run⟩ := unescapeFrame_of_announced announced
  have total := frameLen_eq found
  have top := found.payloadLength.toNat_lt
  have long : 7 ≤ (unescapeBytes escaped).length := by
    unfold announcedLength at announced
    split at announced
    · rename_i unescaped
      rw [unescaped]
      simp only [List.length_cons]
      omega
    · cases announced
  rw [if_neg (by omega), if_neg (by omega)] at run
  have room := (inside _ run).2
  simp only [List.length_take] at room
  omega

/-- **Frames lie inside their buffer unless their length wraps.** The sum of 7 and the
announced payload length is taken in 32 bits before it is compared with the number of bytes. -/
theorem liesInside_iff (escaped : List UInt8) :
    LiesInside escaped ↔
      ∀ n, announcedLength (unescapeBytes escaped) = some n → n ≤ 2 ^ 32 - 7 := by
  constructor
  · intro inside n announced
    by_contra wraps
    exact not_liesInside announced (Nat.not_le.mp wraps) inside
  · exact liesInside_of_announced

/-- Seven bytes that announce a payload of 4294967295 bytes. -/
theorem not_liesInside_full_length :
    ¬ LiesInside [0x0c, 0x00, 0xff, 0xff, 0xff, 0xff, 0x00] :=
  not_liesInside (n := 2 ^ 32 - 1) (by decide) (by decide)

/-! ## The first body of a stream -/

/-- The first delimited body of a stream, and what is behind it. The open body so far is
`none` outside any body. -/
def firstBody : Option (List UInt8) → List UInt8 → Option (List UInt8 × List UInt8)
  | _, [] => none
  | none, b :: rest => firstBody (if b = frameStartByte then some [] else none) rest
  | some body, b :: rest =>
    if b = frameStartByte then firstBody (some []) rest
    else if b = frameEndByte then some (body, rest)
    else firstBody (some (body ++ [b])) rest

theorem firstBody_start (place : Option (List UInt8)) (rest : List UInt8) :
    firstBody place (frameStartByte :: rest) = firstBody (some []) rest := by
  cases place <;> simp [firstBody]

theorem firstBody_end (body rest : List UInt8) :
    firstBody (some body) (frameEndByte :: rest) = some (body, rest) := by
  rw [firstBody, if_neg (by decide), if_pos rfl]

/-- Outside a body everything up to the next START is passed over. -/
theorem firstBody_outside {before : List UInt8} (absent : frameStartByte ∉ before)
    (rest : List UInt8) : firstBody none (before ++ rest) = firstBody none rest := by
  induction before with
  | nil => rfl
  | cons b before ih =>
    rw [List.mem_cons, not_or] at absent
    rw [List.cons_append, firstBody, if_neg (Ne.symm absent.1), ih absent.2]

/-- Inside a body plain bytes are collected. -/
theorem firstBody_plain {bytes : List UInt8} (plain : Plain bytes) (body rest : List UInt8) :
    firstBody (some body) (bytes ++ rest) = firstBody (some (body ++ bytes)) rest := by
  induction bytes generalizing body with
  | nil => rw [List.append_nil, List.nil_append]
  | cons b bytes ih =>
    obtain ⟨notStart, notEnd⟩ := plain
    rw [List.mem_cons, not_or] at notStart notEnd
    have notStart' : b ≠ frameStartByte := Ne.symm notStart.1
    have notEnd' : b ≠ frameEndByte := Ne.symm notEnd.1
    rw [List.cons_append, firstBody, if_neg notStart', if_neg notEnd',
      ih ⟨notStart.2, notEnd.2⟩, List.append_assoc, List.singleton_append]

theorem firstBody_length {place : Option (List UInt8)} {stream body behind : List UInt8}
    (found : firstBody place stream = some (body, behind)) : behind.length < stream.length := by
  fun_induction firstBody place stream with
  | case1 => cases found
  | case2 b rest ih => exact Nat.lt_succ_of_lt (ih found)
  | case3 body₁ rest ih => exact Nat.lt_succ_of_lt (ih found)
  | case4 =>
    cases found
    exact Nat.lt_succ_self _
  | case5 body₁ b rest notStart notEnd ih => exact Nat.lt_succ_of_lt (ih found)

/-- A delimited body, valid or not, is complete in a stream. -/
def HoldsBody (stream : List UInt8) : Prop :=
  ∃ before body behind, stream = before ++ frameStartByte :: body ++ frameEndByte :: behind ∧
    Plain body

/-- The bytes that led to a place. -/
def opening : Option (List UInt8) → List UInt8
  | none => []
  | some body => frameStartByte :: body

theorem holdsBody_of_firstBody {place : Option (List UInt8)} {stream : List UInt8}
    (plain : ∀ body, place = some body → Plain body) (found : (firstBody place stream).isSome) :
    HoldsBody (opening place ++ stream) := by
  fun_induction firstBody place stream with
  | case1 => cases found
  | case2 b rest ih =>
    by_cases isStart : b = frameStartByte
    · rw [if_pos isStart] at ih found
      obtain ⟨before, body, behind, split, inner⟩ :=
        ih (fun body same => by cases same; exact ⟨by simp, by simp⟩) found
      exact ⟨before, body, behind, by rw [isStart]; exact split, inner⟩
    · rw [if_neg isStart] at ih found
      obtain ⟨before, body, behind, split, inner⟩ := ih (fun body same => by cases same) found
      exact ⟨b :: before, body, behind, congrArg (b :: ·) split, inner⟩
  | case3 body₁ rest ih =>
    obtain ⟨before, body, behind, split, inner⟩ :=
      ih (fun body same => by cases same; exact ⟨by simp, by simp⟩) found
    refine ⟨opening (some body₁) ++ before, body, behind, ?_, inner⟩
    have whole : frameStartByte :: rest = before ++ frameStartByte :: body ++ frameEndByte :: behind :=
      split
    rw [whole]
    simp
  | case4 body₁ rest notStart => exact ⟨[], body₁, rest, rfl, plain body₁ rfl⟩
  | case5 body₁ b rest notStart notEnd ih =>
    have more : Plain (body₁ ++ [b]) := by
      refine (plain body₁ rfl).append ?_
      simp [Delimited.Plain, wire, Ne.symm notStart, Ne.symm notEnd]
    obtain ⟨before, body, behind, split, inner⟩ :=
      ih (fun body same => by cases same; exact more) found
    refine ⟨before, body, behind, ?_, inner⟩
    rw [← split]
    simp [opening]

theorem firstBody_of_holdsBody {place : Option (List UInt8)} {before body behind : List UInt8}
    (plain : Plain body) :
    (firstBody place (before ++ frameStartByte :: body ++ frameEndByte :: behind)).isSome := by
  induction before generalizing place with
  | nil =>
    rw [List.nil_append, List.cons_append, firstBody_start, firstBody_plain plain, firstBody_end]
    rfl
  | cons b before ih =>
    cases place with
    | none => exact ih
    | some open_ =>
      rw [List.cons_append, List.cons_append, firstBody]
      split
      · exact ih
      · split
        · rfl
        · exact ih

theorem firstBody_isSome (stream : List UInt8) :
    (firstBody none stream).isSome ↔ HoldsBody stream := by
  constructor
  · exact holdsBody_of_firstBody fun body same => by cases same
  · rintro ⟨before, body, behind, rfl, plain⟩
    exact firstBody_of_holdsBody plain

/-! ## What the scanner finds in a buffer -/

/-- A valid frame is found in the stream when behind each invalid body as many bytes as
it has, and one more, are passed over. -/
def recovers (stream : List UInt8) : Bool :=
  match _found : firstBody none stream with
  | none => false
  | some (body, behind) =>
    (unescapeFrame body).isSome || recovers (behind.drop (body.length + 1))
termination_by stream.length
decreasing_by
  have shorter := firstBody_length _found
  rw [List.length_drop]
  omega

theorem recovers_of_none {stream : List UInt8} (nothing : firstBody none stream = none) :
    recovers stream = false := by
  rw [recovers]
  split
  · rfl
  · rename_i found
    rw [nothing] at found
    cases found

theorem recovers_of_some {stream body behind : List UInt8}
    (first : firstBody none stream = some (body, behind)) :
    recovers stream = ((unescapeFrame body).isSome || recovers (behind.drop (body.length + 1))) := by
  rw [recovers]
  split
  · rename_i nothing
    rw [first] at nothing
    cases nothing
  · rename_i found
    rw [first] at found
    cases found
    rfl

theorem recovers_congr {stream stream' : List UInt8}
    (same : firstBody none stream = firstBody none stream') : recovers stream = recovers stream' := by
  cases first : firstBody none stream' with
  | none => rw [recovers_of_none first, recovers_of_none (same.trans first)]
  | some found =>
    obtain ⟨body, behind⟩ := found
    rw [recovers_of_some first, recovers_of_some (same.trans first)]

/-- The bytes that a scan at index `i` has yet to account for. -/
def ahead (i : Nat) (c : FrameConn) : List UInt8 :=
  if c.readStarted then frameStartByte :: c.readBuf else c.readBuf.drop i

section Ahead

variable {i : Nat} {c : FrameConn}

theorem ahead_started (started : c.readStarted = true) (plain : Plain (c.readBuf.take i)) :
    firstBody none (ahead i c) = firstBody (some (c.readBuf.take i)) (c.readBuf.drop i) := by
  have collected := firstBody_plain plain [] (c.readBuf.drop i)
  rw [List.take_append_drop, List.nil_append] at collected
  rw [ahead, if_pos started, firstBody_start, collected]

theorem ahead_stopped (stopped : c.readStarted = false) : ahead i c = c.readBuf.drop i := by
  rw [ahead, stopped, if_neg Bool.false_ne_true]

/-- A START byte: the first body is the first one behind it. -/
theorem firstBody_ahead_restart (plain : c.readStarted = true → Plain (c.readBuf.take i))
    (small : i < c.readBuf.length) (isStart : c.readBuf[i] = frameStartByte) :
    firstBody none (ahead i c) =
      firstBody none (ahead 0 { c with readBuf := c.readBuf.drop (i + 1), readStarted := true }) := by
  have split : c.readBuf.drop i = frameStartByte :: c.readBuf.drop (i + 1) := by
    rw [List.drop_eq_getElem_cons small, isStart]
  have after : ahead 0 { c with readBuf := c.readBuf.drop (i + 1), readStarted := true } =
      frameStartByte :: c.readBuf.drop (i + 1) := rfl
  rw [after, firstBody_start]
  cases started : c.readStarted with
  | true => rw [ahead_started started (plain started), split, firstBody_start]
  | false => rw [ahead_stopped started, split, firstBody_start]

/-- A byte that is no delimiter here. -/
theorem firstBody_ahead_advance (plain : c.readStarted = true → Plain (c.readBuf.take i))
    (small : i < c.readBuf.length) (notStart : c.readBuf[i] ≠ frameStartByte)
    (notEnd : ¬ (c.readBuf[i] = frameEndByte ∧ c.readStarted = true)) :
    (c.readStarted = true → Plain (c.readBuf.take (i + 1))) ∧
      firstBody none (ahead i c) = firstBody none (ahead (i + 1) c) := by
  have taken := List.take_succ_eq_append_getElem small
  have more : c.readStarted = true → Plain (c.readBuf.take (i + 1)) := by
    intro started
    rw [taken]
    refine (plain started).append ?_
    have other : c.readBuf[i] ≠ frameEndByte := fun ends => notEnd ⟨ends, started⟩
    simp [Delimited.Plain, wire, Ne.symm notStart, Ne.symm other]
  refine ⟨more, ?_⟩
  cases started : c.readStarted with
  | true =>
    have other : c.readBuf[i] ≠ frameEndByte := fun ends => notEnd ⟨ends, started⟩
    rw [ahead_started started (plain started), ahead_started started (more started), taken,
      List.drop_eq_getElem_cons small, firstBody, if_neg notStart, if_neg other]
  | false =>
    rw [ahead_stopped started, ahead_stopped started, List.drop_eq_getElem_cons small, firstBody,
      if_neg notStart]

/-- The END byte of a started buffer: the first body is what is before it. -/
theorem firstBody_ahead_close (plain : c.readStarted = true → Plain (c.readBuf.take i))
    (small : i < c.readBuf.length) (isEnd : c.readBuf[i] = frameEndByte)
    (started : c.readStarted = true) :
    firstBody none (ahead i c) = some (c.readBuf.take i, c.readBuf.drop (i + 1)) := by
  rw [ahead_started started (plain started), List.drop_eq_getElem_cons small, isEnd, firstBody_end]

/-- At the end of the buffer there is no body. -/
theorem firstBody_ahead_done (plain : c.readStarted = true → Plain (c.readBuf.take i))
    (done : c.readBuf.length ≤ i) : firstBody none (ahead i c) = none := by
  have nothing : c.readBuf.drop i = [] := List.drop_of_length_le done
  cases started : c.readStarted with
  | true =>
    rw [ahead_started started (plain started), nothing]
    rfl
  | false =>
    rw [ahead_stopped started, nothing]
    rfl

end Ahead

/-- A frame is found when the bytes ahead hold a valid one that is not passed over. -/
theorem nextFrameLoop_isSome {i : Nat} {c : FrameConn} (errno : Errno)
    (plain : c.readStarted = true → Plain (c.readBuf.take i)) :
    (nextFrameLoop i c errno).1.isSome = recovers (ahead i c) := by
  fun_induction nextFrameLoop i c errno with
  | case1 i c errno small isStart ih =>
    rw [ih (fun _ => by simp [Delimited.Plain])]
    exact (recovers_congr (firstBody_ahead_restart plain small isStart)).symm
  | case2 i c errno small notStart isEnd shifted frame valid =>
    rw [recovers_of_some (firstBody_ahead_close plain small isEnd.1 isEnd.2), valid]
    rfl
  | case3 i c errno small notStart isEnd shifted isInvalid ih =>
    have length : (c.readBuf.take i).length = i := by
      rw [List.length_take]
      omega
    rw [ih (fun started => by cases started),
      recovers_of_some (firstBody_ahead_close plain small isEnd.1 isEnd.2), isInvalid, length,
      ahead_stopped rfl]
    rfl
  | case4 i c errno small notStart notEnd ih =>
    obtain ⟨more, same⟩ := firstBody_ahead_advance plain small notStart notEnd
    rw [ih more, recovers_congr same]
  | case5 i c errno done full =>
    rw [recovers_of_none (firstBody_ahead_done plain (Nat.not_lt.mp done))]
    rfl
  | case6 i c errno done room =>
    rw [recovers_of_none (firstBody_ahead_done plain (Nat.not_lt.mp done))]
    rfl

theorem nextFrame_isSome (c : FrameConn) (errno : Errno) :
    (nextFrame c errno).1.isSome = recovers c.pending :=
  nextFrameLoop_isSome errno fun _ => by simp [Delimited.Plain]

/-- With no body in the buffer none is left. -/
theorem nextFrameLoop_nothing {i : Nat} {c : FrameConn} (errno : Errno)
    (plain : c.readStarted = true → Plain (c.readBuf.take i))
    (absent : c.readStarted = false → frameStartByte ∉ c.readBuf.take i)
    (nothing : firstBody none (ahead i c) = none) :
    firstBody none (nextFrameLoop i c errno).2.1.pending = none := by
  fun_induction nextFrameLoop i c errno with
  | case1 i c errno small isStart ih =>
    refine ih (fun _ => by simp [Delimited.Plain]) (fun stopped => by cases stopped) ?_
    rw [← nothing]
    exact (firstBody_ahead_restart plain small isStart).symm
  | case2 i c errno small notStart isEnd shifted frame valid =>
    rw [firstBody_ahead_close plain small isEnd.1 isEnd.2] at nothing
    cases nothing
  | case3 i c errno small notStart isEnd shifted isInvalid ih =>
    rw [firstBody_ahead_close plain small isEnd.1 isEnd.2] at nothing
    cases nothing
  | case4 i c errno small notStart notEnd ih =>
    obtain ⟨more, same⟩ := firstBody_ahead_advance plain small notStart notEnd
    refine ih more (fun stopped => ?_) (same.symm.trans nothing)
    rw [List.take_succ_eq_append_getElem small, List.mem_append, List.mem_singleton]
    rintro (early | last)
    · exact absent stopped early
    · exact notStart last.symm
  | case5 => rfl
  | case6 i c errno done room =>
    have all : c.readBuf.take i = c.readBuf := List.take_of_length_le (Nat.not_lt.mp done)
    cases started : c.readStarted with
    | true =>
      rw [pending_started started]
      rw [ahead, if_pos started] at nothing
      exact nothing
    | false =>
      have outside := absent started
      rw [all] at outside
      rw [pending_stopped started, ← List.append_nil c.readBuf, firstBody_outside outside]
      rfl

/-! ## Giving up -/

/-- The first delimited body of the buffer is no valid frame, so it is discarded. -/
def Discards (c : FrameConn) : Prop :=
  ∃ body behind, firstBody none c.pending = some (body, behind) ∧ unescapeFrame body = none

/-- When the scan gives up with errno 0 no delimited body is left in the buffer, and when
it has discarded one errno says so. -/
def GivesUpRight (c : FrameConn) : Prop :=
  ∀ errno c' errno', nextFrame c errno = (none, c', errno') →
    (errno' = 0 → ¬ HoldsBody c'.pending) ∧ (Discards c → errno' = mdrEInvalidFrame)

/-- A buffer in which a frame is found, and one without a body. -/
theorem givesUpRight_of {c : FrameConn}
    (fine : firstBody none c.pending = none ∨ recovers c.pending = true) : GivesUpRight c := by
  intro errno c' errno' run
  rcases fine with nothing | found
  · have left := nextFrameLoop_nothing (i := 0) errno (fun _ => by simp [Delimited.Plain])
      (fun _ => by simp) nothing
    rw [← nextFrame, run] at left
    refine ⟨fun _ holds => ?_, ?_⟩
    · rw [← firstBody_isSome, left] at holds
      cases holds
    · rintro ⟨body, behind, first, -⟩
      rw [nothing] at first
      cases first
  · have isSome := nextFrame_isSome c errno
    rw [run, found] at isSome
    cases isSome

/-- A discarded body behind which no frame is found: errno is 0. -/
theorem not_givesUpRight {c : FrameConn} {body behind : List UInt8}
    (first : firstBody none c.pending = some (body, behind)) (lost : recovers c.pending = false) :
    ¬ GivesUpRight c := by
  intro right
  have isSome := nextFrame_isSome c 0
  rw [lost, Option.isSome_eq_false_iff, Option.isNone_iff_eq_none] at isSome
  obtain ⟨c', errno', run⟩ : ∃ c' errno', nextFrame c 0 = (none, c', errno') :=
    ⟨_, _, Prod.ext isSome rfl⟩
  have isInvalid : unescapeFrame body = none := by
    rw [recovers_of_some first, Bool.or_eq_false_iff] at lost
    exact Option.isNone_iff_eq_none.mp (Option.isSome_eq_false_iff.mp lost.1)
  have told := (right _ _ _ run).2 ⟨body, behind, first, isInvalid⟩
  rw [(nextFrameLoop_room _ _ _ run).2] at told
  cases told

/-- **The scan gives up as it should when it discards nothing**, or finds a frame behind what
it discards. Otherwise errno is 0 and not `MDR_E_INVALID_FRAME`. -/
theorem givesUpRight_iff (c : FrameConn) :
    GivesUpRight c ↔ ¬ HoldsBody c.pending ∨ recovers c.pending = true := by
  rw [← firstBody_isSome, Option.not_isSome_iff_eq_none]
  constructor
  · intro right
    by_contra other
    rw [not_or, Bool.not_eq_true] at other
    obtain ⟨⟨body, behind⟩, first⟩ := Option.ne_none_iff_exists'.mp other.1
    exact not_givesUpRight first other.2 right
  · exact givesUpRight_of

/-- An invalid body of ten bytes and an ACK behind it, which is not found and stays in the
buffer. -/
theorem not_givesUpRight_ack_behind_invalid :
    ¬ GivesUpRight { fresh with readBuf :=
      [0x3e, 1, 0, 1, 0, 0, 0, 0, 0, 0, 0, 0x3c, 0x3e, 1, 1, 0, 0, 0, 0, 2, 0x3c] } :=
  not_givesUpRight (c := { fresh with readBuf :=
      [0x3e, 1, 0, 1, 0, 0, 0, 0, 0, 0, 0, 0x3c, 0x3e, 1, 1, 0, 0, 0, 0, 2, 0x3c] }) rfl
    (by decide +kernel)

end Libmdr.FrameConn
