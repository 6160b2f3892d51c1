import Libmdr.FrameConn.Deframe

/-!
# What a read leaves in the buffer

`mdr_frameconn_read_frame` returns as soon as it has a frame, and what is behind
the frame stays in the read buffer. When no `read` gives more than one END of a
body, a complete body never stays there.
-/

namespace Libmdr.FrameConn
set_option autoImplicit false

/-- The read buffer, with the START byte that the scanner has taken off. -/
def pending (c : FrameConn) : List UInt8 :=
  if c.readStarted then frameStartByte :: c.readBuf else c.readBuf

/-- A complete delimited valid frame is in the read buffer. -/
def HoldsFrame (c : FrameConn) : Prop :=
  ∃ before body behind, c.pending = before ++ frameStartByte :: body ++ frameEndByte :: behind ∧
    Plain body ∧ (unescapeFrame body).isSome

/-- Each `read` result ends at most one delimited body. -/
def OneBodyPerRead (got : List (List UInt8)) : Prop :=
  ∀ before chunk after, got = before ++ chunk :: after →
    (bodiesIn (openBody none before.flatten) chunk).length ≤ 1

theorem OneBodyPerRead.front {got more : List (List UInt8)} (few : OneBodyPerRead (got ++ more)) :
    OneBodyPerRead got := by
  intro before chunk after split
  exact few before chunk (after ++ more) (by rw [split]; simp)

theorem OneBodyPerRead.last {got : List (List UInt8)} {chunk : List UInt8}
    (few : OneBodyPerRead (got ++ [chunk])) :
    (bodiesIn (openBody none got.flatten) chunk).length ≤ 1 :=
  few got chunk [] rfl

/-- The same, behind a stream that leaves the scanner at `place`. -/
def oneBodyFrom (place : Option (List UInt8)) : List (List UInt8) → Bool
  | [] => true
  | chunk :: rest =>
    decide ((bodiesIn place chunk).length ≤ 1) && oneBodyFrom (openBody place chunk) rest

theorem oneBodyFrom_iff (place : Option (List UInt8)) (got : List (List UInt8)) :
    oneBodyFrom place got = true ↔
      ∀ before chunk after, got = before ++ chunk :: after →
        (bodiesIn (openBody place before.flatten) chunk).length ≤ 1 := by
  induction got generalizing place with
  | nil => simp [oneBodyFrom]
  | cons first rest ih =>
    rw [oneBodyFrom, Bool.and_eq_true, decide_eq_true_iff, ih]
    constructor
    · rintro ⟨here, later⟩ before chunk after split
      rcases List.cons_eq_append_iff.mp split with ⟨rfl, same⟩ | ⟨more, rfl, tail⟩
      · obtain ⟨rfl, -⟩ := List.cons.inj same
        exact here
      · rw [List.flatten_cons, openBody_append]
        exact later more chunk after tail
    · intro few
      refine ⟨few [] first rest rfl, fun before chunk after split => ?_⟩
      rw [← openBody_append, ← List.flatten_cons]
      exact few (first :: before) chunk after (by rw [split]; rfl)

instance (got : List (List UInt8)) : Decidable (OneBodyPerRead got) :=
  decidable_of_iff _ (oneBodyFrom_iff none got)

/-! ## The scan -/

theorem bodiesIn_start (s : Option (List UInt8)) (rest : List UInt8) :
    bodiesIn s (frameStartByte :: rest) = bodiesIn (some []) rest := by
  simp [bodiesIn, Delimited.bodies, show frameStartByte = wire.start from rfl]

theorem openBody_start (s : Option (List UInt8)) (rest : List UInt8) :
    openBody s (frameStartByte :: rest) = openBody (some []) rest := by
  simp [openBody, Delimited.after, show frameStartByte = wire.start from rfl]

/-- A body that fits, with its END. -/
theorem of_body_end {body : List UInt8} (plain : Plain body) (fits : body.length < frameBufSize)
    (rest : List UInt8) :
    openBody (some []) (body ++ frameEndByte :: rest) = openBody none rest ∧
      bodiesIn (some []) (body ++ frameEndByte :: rest) = body :: bodiesIn none rest := by
  have collected : openBody (some []) body = some body ∧ bodiesIn (some []) body = [] :=
    Delimited.some_of_plain [] plain (by rw [List.length_nil, Nat.zero_add]; exact fits)
  have ends : Delimited.step wire (some body) frameEndByte = (none, [body]) :=
    Delimited.step_some_stop body
  rw [openBody_append, bodiesIn_append, collected.1, collected.2]
  simp [openBody, bodiesIn, Delimited.after, Delimited.bodies, ends]

/-- A complete frame in the buffer is a body of the bytes in it. -/
theorem HoldsFrame.bodies {c : FrameConn} (holds : HoldsFrame c)
    (fits : c.readBuf.length ≤ frameBufSize) : bodiesIn none c.pending ≠ [] := by
  obtain ⟨before, body, behind, split, plain, -⟩ := holds
  have long : c.pending.length ≤ frameBufSize + 1 := by
    unfold pending
    split
    · exact Nat.succ_le_succ fits
    · omega
  have short : body.length < frameBufSize := by
    rw [split] at long
    simp only [List.length_append, List.length_cons] at long
    omega
  rw [split]
  exact List.ne_nil_of_mem (Delimited.mem_bodies_of_delimited none before behind plain short)

/-- The scan at index `i` of a buffer with at most one complete body: the bytes
before `i` hold no delimiter that matters, or no complete body is left. -/
structure Draining (i : Nat) (c : FrameConn) : Prop where
  fits : c.readBuf.length ≤ frameBufSize
  few : (bodiesIn none c.pending).length ≤ 1
  started : c.readStarted = true → Plain (c.readBuf.take i)
  stopped : c.readStarted = false →
    frameStartByte ∉ c.readBuf.take i ∨ bodiesIn none c.pending = []

/-- Nothing complete is in the buffer, and the bytes in it lead where they did
before, or outside any body. -/
structure Drained (place : Option (List UInt8)) (c : FrameConn) : Prop where
  fits : c.readBuf.length ≤ frameBufSize
  nothing : bodiesIn none c.pending = []
  place : openBody none c.pending = place ∨ openBody none c.pending = none

/-- A drained buffer holds no complete frame. -/
theorem Drained.not_holdsFrame {place : Option (List UInt8)} {c : FrameConn}
    (drained : Drained place c) : ¬ HoldsFrame c :=
  fun holds => holds.bodies drained.fits drained.nothing

theorem pending_of_same {c c' : FrameConn} (readBuf : c'.readBuf = c.readBuf)
    (readStarted : c'.readStarted = c.readStarted) : c'.pending = c.pending := by
  rw [pending, pending, readBuf, readStarted]

theorem pending_started {c : FrameConn} (started : c.readStarted = true) :
    c.pending = frameStartByte :: c.readBuf := by
  rw [pending, if_pos started]

theorem pending_stopped {c : FrameConn} (stopped : c.readStarted = false) :
    c.pending = c.readBuf := by
  rw [pending, if_neg (by rw [stopped]; exact Bool.false_ne_true)]

/-- At the end of the buffer. -/
theorem Draining.done {i : Nat} {c : FrameConn} (draining : Draining i c)
    (reached : c.readBuf.length ≤ i) (room : c.readBuf.length < frameBufSize) :
    Drained (openBody none c.pending) c where
  fits := draining.fits
  nothing := by
    have all : c.readBuf.take i = c.readBuf := List.take_of_length_le reached
    cases started : c.readStarted with
    | true =>
      have plain := draining.started started
      rw [all] at plain
      rw [pending_started started, bodiesIn_start]
      exact (Delimited.some_of_plain [] plain
        (by rw [List.length_nil, Nat.zero_add]; exact room)).2
    | false =>
      rcases draining.stopped started with absent | nothing
      · rw [all] at absent
        rw [pending_stopped started]
        exact (Delimited.none_of_no_start absent).2
      · exact nothing
  place := .inl rfl

theorem drained_clear (place : Option (List UInt8)) (c : FrameConn) :
    Drained place { c with readBuf := [], readStarted := false } where
  fits := Nat.zero_le _
  nothing := rfl
  place := .inr rfl

/-- A START byte: what is behind it is scanned afresh. -/
theorem Draining.restart {i : Nat} {c : FrameConn} (draining : Draining i c)
    (small : i < c.readBuf.length) (isStart : c.readBuf[i] = frameStartByte) :
    Draining 0 { c with readBuf := c.readBuf.drop (i + 1), readStarted := true } ∧
      openBody none { c with readBuf := c.readBuf.drop (i + 1), readStarted := true }.pending =
        openBody none c.pending := by
  have split : ∃ before, c.pending = before ++ frameStartByte :: c.readBuf.drop (i + 1) := by
    have buf : c.readBuf = c.readBuf.take i ++ frameStartByte :: c.readBuf.drop (i + 1) := by
      rw [← isStart, ← List.drop_eq_getElem_cons small, List.take_append_drop]
    cases started : c.readStarted with
    | true => exact ⟨frameStartByte :: c.readBuf.take i, by
        rw [pending_started started, List.cons_append, ← buf]⟩
    | false => exact ⟨c.readBuf.take i, by rw [pending_stopped started, ← buf]⟩
  obtain ⟨before, split⟩ := split
  have started := pending_started
    (show { c with readBuf := c.readBuf.drop (i + 1), readStarted := true }.readStarted = true from rfl)
  refine ⟨⟨?_, ?_, fun _ => ?_, fun stopped => by cases stopped⟩, ?_⟩
  · have fits := draining.fits
    simp only [List.length_drop]
    omega
  · have few := draining.few
    rw [split, bodiesIn_append, bodiesIn_start, List.length_append] at few
    rw [started, bodiesIn_start]
    exact Nat.le_trans (Nat.le_add_left _ _) few
  · simp [Plain, Delimited.Plain]
  · rw [started, split, openBody_append, openBody_start, openBody_start]

/-- The END byte of the one body: nothing complete is behind it. -/
theorem Draining.close {i : Nat} {c : FrameConn} (draining : Draining i c)
    (small : i < c.readBuf.length) (isEnd : c.readBuf[i] = frameEndByte)
    (started : c.readStarted = true) :
    Drained (openBody none c.pending)
      { c with readBuf := c.readBuf.drop (i + 1), readStarted := false } := by
  have buf : c.readBuf = c.readBuf.take i ++ frameEndByte :: c.readBuf.drop (i + 1) := by
    rw [← isEnd, ← List.drop_eq_getElem_cons small, List.take_append_drop]
  have fits := draining.fits
  have short : (c.readBuf.take i).length < frameBufSize := by
    rw [List.length_take]
    omega
  have ended := of_body_end (draining.started started) short (c.readBuf.drop (i + 1))
  rw [← buf] at ended
  have stopped := pending_stopped
    (show { c with readBuf := c.readBuf.drop (i + 1), readStarted := false }.readStarted = false
      from rfl)
  refine ⟨?_, ?_, ?_⟩
  · simp only [List.length_drop]
    omega
  · have few := draining.few
    rw [pending_started started, bodiesIn_start, ended.2, List.length_cons] at few
    rw [stopped]
    change bodiesIn none (c.readBuf.drop (i + 1)) = []
    exact List.eq_nil_of_length_eq_zero (by omega)
  · rw [stopped, pending_started started, openBody_start, ended.1]
    exact .inl rfl

/-- A byte that is no delimiter here. -/
theorem Draining.advance {i : Nat} {c : FrameConn} (draining : Draining i c)
    (small : i < c.readBuf.length) (notStart : c.readBuf[i] ≠ frameStartByte)
    (notEnd : ¬ (c.readBuf[i] = frameEndByte ∧ c.readStarted = true)) : Draining (i + 1) c where
  fits := draining.fits
  few := draining.few
  started := fun started => by
    rw [List.take_succ_eq_append_getElem small]
    refine (draining.started started).append ?_
    have other : c.readBuf[i] ≠ frameEndByte := fun ends => notEnd ⟨ends, started⟩
    simp [Delimited.Plain, wire, Ne.symm notStart, Ne.symm other]
  stopped := fun stopped => by
    refine (draining.stopped stopped).imp_left fun absent => ?_
    rw [List.take_succ_eq_append_getElem small, List.mem_append, List.mem_singleton]
    rintro (early | last)
    · exact absent early
    · exact notStart last.symm

/-- A buffer with nothing complete in it may be scanned from any index. -/
theorem Drained.draining {place : Option (List UInt8)} {c : FrameConn} (drained : Drained place c)
    (stopped : c.readStarted = false) (i : Nat) : Draining i c where
  fits := drained.fits
  few := by rw [drained.nothing]; exact Nat.zero_le _
  started := fun started => by rw [stopped] at started; cases started
  stopped := fun _ => .inr drained.nothing

theorem Drained.of_place {place place' : Option (List UInt8)} {c : FrameConn}
    (drained : Drained place c) (same : place = place' ∨ place = none) : Drained place' c where
  fits := drained.fits
  nothing := drained.nothing
  place := by
    rcases drained.place with here | outside
    · rcases same with rfl | rfl
      · exact .inl here
      · exact .inr here
    · exact .inr outside

theorem nextFrameLoop_drained {i : Nat} {c c' : FrameConn} {errno errno' : Errno}
    {frame : Option Frame} (draining : Draining i c)
    (run : nextFrameLoop i c errno = (frame, c', errno')) :
    Drained (openBody none c.pending) c' := by
  fun_induction nextFrameLoop i c errno with
  | case1 i c errno small isStart ih =>
    obtain ⟨again, place⟩ := draining.restart small isStart
    rw [← place]
    exact ih again run
  | case2 i c errno small notStart isEnd shifted frame valid =>
    obtain ⟨-, same, -⟩ : _ ∧ shifted = c' ∧ _ := by simpa only [Prod.mk.injEq] using run
    rw [← same]
    exact draining.close small isEnd.1 isEnd.2
  | case3 i c errno small notStart isEnd shifted isInvalid ih =>
    have closed := draining.close small isEnd.1 isEnd.2
    exact (ih (closed.draining rfl _) run).of_place closed.place
  | case4 i c errno small notStart notEnd ih =>
    exact ih (draining.advance small notStart notEnd) run
  | case5 i c errno done full =>
    cases run
    exact drained_clear _ c
  | case6 i c errno done small =>
    cases run
    exact draining.done (Nat.not_lt.mp done) (Nat.not_le.mp small)

/-! ## Reading -/

theorem readBytes_got {h h' : Host} {n : Nat} {r : Except Errno (List UInt8)}
    (run : readBytes h n = some (r, h')) : h'.got = h.got ++ r.toOption.toList := by
  fun_induction readBytes h n with
  | case1 => cases run
  | case2 h h₁ first ih =>
    rw [ih run, Host.read_got first]
    exact congrArg (· ++ _) (List.append_nil _)
  | case3 h e h₁ first other =>
    cases run
    exact Host.read_got first
  | case4 h bytes h₁ first =>
    cases run
    exact Host.read_got first

/-- What is read is added to what was read before. -/
theorem readFrame_got {c c' : FrameConn} {h h' : Host} {frame : Option Frame}
    (run : readFrame c h = some (frame, c', h')) : ∃ more, h'.got = h.got ++ more := by
  fun_induction readFrame c h with
  | case1 | case2 =>
    cases run
    exact ⟨[], (List.append_nil _).symm⟩
  | case3 => cases run
  | case4 c h c₁ errno scanned noError e h₁ first =>
    cases run
    exact ⟨[], readBytes_got first⟩
  | case5 c h c₁ errno scanned noError bytes h₁ first ih =>
    obtain ⟨more, got⟩ := ih run
    have here : h₁.got = h.got ++ [bytes] := readBytes_got first
    exact ⟨bytes :: more, by rw [got, here, List.append_assoc]; rfl⟩

/-- The scan of a buffer with at most one complete body. -/
theorem nextFrame_drained {c c' : FrameConn} {place : Option (List UInt8)} {errno errno' : Errno}
    {frame : Option Frame} (fits : c.readBuf.length ≤ frameBufSize)
    (few : (bodiesIn none c.pending).length ≤ 1)
    (here : openBody none c.pending = place ∨ openBody none c.pending = none)
    (scanned : nextFrame c errno = (frame, c', errno')) : Drained place c' := by
  have start : Draining 0 c :=
    ⟨fits, few, fun _ => by simp [Delimited.Plain], fun _ => .inl (by simp)⟩
  exact (nextFrameLoop_drained start scanned).of_place here

/-- A chunk that ends at most one body joins a buffer with nothing complete in it. -/
theorem Drained.join {got : List (List UInt8)} {c : FrameConn} {bytes : List UInt8}
    (drained : Drained (openBody none got.flatten) c)
    (short : bytes.length ≤ frameBufSize - c.readBuf.length)
    (few : (bodiesIn (openBody none got.flatten) bytes).length ≤ 1) :
    let joined : FrameConn := { c with readBuf := c.readBuf ++ bytes }
    joined.readBuf.length ≤ frameBufSize ∧ (bodiesIn none joined.pending).length ≤ 1 ∧
      (openBody none joined.pending = openBody none (got ++ [bytes]).flatten ∨
        openBody none joined.pending = none) := by
  intro joined
  have more : joined.pending = c.pending ++ bytes := by
    unfold joined pending
    split <;> rfl
  have all : (got ++ [bytes]).flatten = got.flatten ++ bytes := by simp
  refine ⟨?_, ?_, ?_⟩
  · have fits := drained.fits
    simp only [joined, List.length_append]
    omega
  · rw [more, bodiesIn_append, drained.nothing, List.nil_append]
    rcases drained.place with here | outside
    · rw [here]
      exact few
    · rw [outside]
      exact Nat.le_trans (Delimited.bodies_none_sublist _ bytes).length_le few
  · rw [more, all, openBody_append, openBody_append]
    rcases drained.place with here | outside
    · rw [here]
      exact .inl rfl
    · rw [outside]
      exact Delimited.after_none_or _ bytes

/-- A call leaves nothing complete in the buffer, when it finds at most one complete
body there and each `read` ends at most one. -/
theorem readFrame_drained {c c' : FrameConn} {h h' : Host} {frame : Option Frame}
    (fits : c.readBuf.length ≤ frameBufSize) (few : (bodiesIn none c.pending).length ≤ 1)
    (here : openBody none c.pending = openBody none h.got.flatten ∨ openBody none c.pending = none)
    (run : readFrame c h = some (frame, c', h')) (one : OneBodyPerRead h'.got) :
    Drained (openBody none h'.got.flatten) c' := by
  fun_induction readFrame c h with
  | case1 c h found c₁ errno scanned =>
    cases run
    exact nextFrame_drained fits few here scanned
  | case2 c h c₁ errno scanned failed =>
    exact absurd (nextFrameLoop_room _ _ _ scanned).2 failed
  | case3 => cases run
  | case4 c h c₁ errno scanned noError e h₁ first =>
    cases run
    have same : h'.got = h.got ++ [] := readBytes_got first
    rw [same, List.append_nil]
    exact nextFrame_drained fits few here scanned
  | case5 c h c₁ errno scanned noError bytes h₁ first ih =>
    have drained := nextFrame_drained fits few here scanned
    have got : h₁.got = h.got ++ [bytes] := readBytes_got first
    have short := (readBytes_ok first).1
    obtain ⟨more, later⟩ := readFrame_got run
    have oneNow := one
    rw [later, got] at oneNow
    obtain ⟨fits', few', here'⟩ := drained.join short oneNow.front.last
    rw [← got] at here'
    exact ih fits' few' here' run

end Libmdr.FrameConn
