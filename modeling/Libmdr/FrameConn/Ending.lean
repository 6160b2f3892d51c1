import Libmdr.FrameConn.Model

/-!
# Reading to the end of the stream

When the peer is gone every `read` returns 0. That is no error for
`mdr_frameconn_read_frame`, and it adds no byte: the loop ends only when the scanner still
finds a frame in what has arrived, or when a `read` failed before.
-/

namespace Libmdr
set_option autoImplicit false

namespace Host

/-- Behind the outcomes listed the stream ends: the next `n` calls of `read` return 0. -/
def endOfStream (n : Nat) (h : Host) : Host :=
  { h with reads := h.reads ++ List.replicate n (.data []) }

theorem endOfStream_zero (h : Host) : h.endOfStream 0 = h := by
  rw [endOfStream, List.replicate_zero, List.append_nil]

/-- The outcomes from the first one on that is no interruption. -/
def settled : List ReadOutcome → List ReadOutcome
  | [] => []
  | .data bytes :: rest => .data bytes :: rest
  | .err e :: rest => if e = eintr then settled rest else .err e :: rest

/-- What is left when `n` bytes are taken of a chunk. -/
def remaining (n : Nat) (bytes : List UInt8) (rest : List ReadOutcome) : List ReadOutcome :=
  if bytes.length ≤ n then rest else .data (bytes.drop n) :: rest

theorem settled_append {outcomes : List ReadOutcome} {n : Nat} :
    settled (outcomes ++ List.replicate n (.data [])) =
      settled outcomes ++ List.replicate n (.data []) := by
  induction outcomes with
  | nil => cases n <;> rfl
  | cons outcome rest ih =>
    cases outcome with
    | data bytes => rfl
    | err e =>
      rw [List.cons_append, settled, settled]
      split
      · exact ih
      · rfl

theorem mem_of_settled {outcome : ReadOutcome} {outcomes : List ReadOutcome}
    (isIn : outcome ∈ settled outcomes) : outcome ∈ outcomes := by
  induction outcomes with
  | nil => exact isIn
  | cons first rest ih =>
    cases first with
    | data bytes => exact isIn
    | err e =>
      rw [settled] at isIn
      split at isIn
      · exact List.mem_cons_of_mem _ (ih isIn)
      · exact isIn

theorem err_mem_of_remaining {e : Errno} {n : Nat} {bytes : List UInt8} {rest : List ReadOutcome}
    (isIn : .err e ∈ remaining n bytes rest) : .err e ∈ ReadOutcome.data bytes :: rest := by
  unfold remaining at isIn
  split at isIn
  · exact List.mem_cons_of_mem _ isIn
  · rcases List.mem_cons.mp isIn with same | later
    · cases same
    · exact List.mem_cons_of_mem _ later

theorem read_errno {h h' : Host} {n : Nat} {e : Errno} (run : h.read n = some (.error e, h')) :
    h'.errno = e := by
  unfold Host.read at run
  split at run <;> cases run
  rfl

/-- A `read` that succeeds takes the first bytes of the next chunk. -/
theorem read_data {h h' : Host} {n : Nat} {bytes : List UInt8}
    (run : h.read n = some (.ok bytes, h')) :
    ∃ all rest, h.reads = .data all :: rest ∧ bytes = all.take n ∧
      h'.reads = remaining n all rest := by
  unfold Host.read at run
  split at run <;> cases run
  rename_i all rest reads
  exact ⟨all, rest, reads, rfl, rfl⟩

theorem remaining_append (n : Nat) (bytes : List UInt8) (rest more : List ReadOutcome) :
    remaining n bytes rest ++ more = remaining n bytes (rest ++ more) := by
  unfold remaining
  split <;> rfl

/-- What follows the outcomes listed does not change a `read` that one of them is for. -/
theorem read_endOfStream {h h' : Host} {n : Nat} {r : Except Errno (List UInt8)} (m : Nat)
    (run : h.read n = some (r, h')) : (h.endOfStream m).read n = some (r, h'.endOfStream m) := by
  unfold Host.read at run
  split at run <;> rename_i reads <;> cases run <;>
    simp only [Host.read, endOfStream, reads, List.cons_append]
  split <;> rfl

end Host

namespace FrameConn

/-! ## What follows the outcomes that are used -/

theorem readBytes_endOfStream {h h' : Host} {n : Nat} {r : Except Errno (List UInt8)} (m : Nat)
    (run : readBytes h n = some (r, h')) :
    readBytes (h.endOfStream m) n = some (r, h'.endOfStream m) := by
  fun_induction readBytes h n with
  | case1 => cases run
  | case2 h h₁ first ih =>
    rw [readBytes_eq, Host.read_endOfStream m first]
    exact ih run
  | case3 h e h₁ first other =>
    cases run
    rw [readBytes_eq, Host.read_endOfStream m first]
    exact if_neg other
  | case4 h bytes h₁ first =>
    cases run
    rw [readBytes_eq, Host.read_endOfStream m first]

/-- A read that returns with the outcomes listed does so whatever follows them. -/
theorem readFrame_endOfStream {c c' : FrameConn} {h h' : Host} {frame : Option Frame} (m : Nat)
    (run : readFrame c h = some (frame, c', h')) :
    readFrame c (h.endOfStream m) = some (frame, c', h'.endOfStream m) := by
  fun_induction readFrame c h with
  | case1 c h found c₁ errno scanned =>
    cases run
    rw [readFrame_eq, show (h.endOfStream m).errno = h.errno from rfl, scanned]
    rfl
  | case2 c h c₁ errno scanned failed =>
    cases run
    rw [readFrame_eq, show (h.endOfStream m).errno = h.errno from rfl, scanned]
    exact if_pos failed
  | case3 => cases run
  | case4 c h c₁ errno scanned noError e h₁ first =>
    cases run
    rw [readFrame_eq, show (h.endOfStream m).errno = h.errno from rfl, scanned]
    have later := readBytes_endOfStream m first
    simp only [if_neg noError]
    rw [show { h.endOfStream m with errno } = ({ h with errno } : Host).endOfStream m from rfl, later]
  | case5 c h c₁ errno scanned noError bytes h₁ first ih =>
    rw [readFrame_eq, show (h.endOfStream m).errno = h.errno from rfl, scanned]
    have later := readBytes_endOfStream m first
    simp only [if_neg noError]
    rw [show { h.endOfStream m with errno } = ({ h with errno } : Host).endOfStream m from rfl, later]
    exact ih run

/-! ## The scan does not see errno or the write buffer -/

theorem nextFrameLoop_other (i : Nat) (c : FrameConn) (errno errno' : Errno)
    (writeBuf : List UInt8) :
    (nextFrameLoop i { c with writeBuf } errno').1 = (nextFrameLoop i c errno).1 ∧
      (nextFrameLoop i { c with writeBuf } errno').2.1 =
        { (nextFrameLoop i c errno).2.1 with writeBuf } := by
  fun_induction nextFrameLoop i c errno generalizing errno' with
  | case1 i c errno small isStart ih =>
    rw [nextFrameLoop]
    simp only [small, isStart, dif_pos, if_true]
    exact ih errno'
  | case2 i c errno small notStart isEnd shifted frame valid =>
    rw [nextFrameLoop]
    simp only [small, isEnd, dif_pos, and_self, if_true, valid]
    exact ⟨rfl, rfl⟩
  | case3 i c errno small notStart isEnd shifted isInvalid ih =>
    rw [nextFrameLoop]
    simp only [small, isEnd, dif_pos, and_self, if_true, isInvalid]
    exact ih mdrEInvalidFrame
  | case4 i c errno small notStart notEnd ih =>
    rw [nextFrameLoop]
    simp only [small, notStart, notEnd, dif_pos, if_false]
    exact ih errno'
  | case5 i c errno done full =>
    rw [nextFrameLoop]
    simp only [done, full, dif_neg, not_false_eq_true, if_true, and_self]
  | case6 i c errno done small =>
    rw [nextFrameLoop]
    simp only [done, small, dif_neg, not_false_eq_true, if_false, and_self]

/-- A scan without a frame, whatever errno is and whatever is to be written. -/
theorem nextFrame_other {c c' : FrameConn} {errno errno' : Errno}
    (scanned : nextFrame c errno = (none, c', errno')) (writeBuf : List UInt8) (e : Errno) :
    nextFrame { c with writeBuf } e = (none, { c' with writeBuf }, 0) := by
  obtain ⟨frame, conn⟩ := nextFrameLoop_other 0 c errno e writeBuf
  rw [← nextFrame, ← nextFrame, scanned] at frame conn
  have ended : nextFrame { c with writeBuf } e =
      (none, { c' with writeBuf }, (nextFrame { c with writeBuf } e).2.2) :=
    Prod.ext frame (Prod.ext conn rfl)
  rw [ended, (nextFrameLoop_room _ _ _ ended).2]

theorem nextFrame_errno {c c' : FrameConn} {errno errno' : Errno}
    (scanned : nextFrame c errno = (none, c', errno')) (e : Errno) :
    nextFrame c e = (none, c', 0) := by
  have kept : (nextFrame c errno).2.1 = { (nextFrame c errno).2.1 with writeBuf := c.writeBuf } :=
    (nextFrameLoop_other 0 c errno errno c.writeBuf).2
  rw [scanned] at kept
  have again : nextFrame c e = (none, { c' with writeBuf := c.writeBuf }, 0) :=
    nextFrame_other scanned c.writeBuf e
  rw [again, ← kept]

theorem nextFrame_isSome_errno (c : FrameConn) (errno e : Errno) :
    (nextFrame c errno).1.isSome = (nextFrame c e).1.isSome :=
  congrArg Option.isSome (nextFrameLoop_other 0 c e errno c.writeBuf).1

/-! ## What ends the loop -/

/-- With the outcomes listed, and an end of stream behind them, a frame becomes complete in
the buffer or a `read` fails. -/
inductive Delivers : FrameConn → List ReadOutcome → Prop
  | found {c : FrameConn} {outcomes : List ReadOutcome}
      (isSome : (nextFrame c 0).1.isSome) : Delivers c outcomes
  | failed {c c' : FrameConn} {outcomes rest : List ReadOutcome} {e : Errno}
      (scanned : nextFrame c 0 = (none, c', 0)) (next : Host.settled outcomes = .err e :: rest) :
      Delivers c outcomes
  | received {c c' : FrameConn} {outcomes rest : List ReadOutcome} {bytes : List UInt8}
      (scanned : nextFrame c 0 = (none, c', 0)) (next : Host.settled outcomes = .data bytes :: rest)
      (later : Delivers
        { c' with readBuf := c'.readBuf ++ bytes.take (frameBufSize - c'.readBuf.length) }
        (Host.remaining (frameBufSize - c'.readBuf.length) bytes rest)) : Delivers c outcomes
  | ended {c c' : FrameConn} {outcomes : List ReadOutcome}
      (scanned : nextFrame c 0 = (none, c', 0)) (next : Host.settled outcomes = [])
      (later : Delivers c' []) : Delivers c outcomes

/-- At the end of the stream `mdr_frameconn_read_frame` returns: a frame, or NULL with an errno
that is not 0. -/
def ReadEnds (c : FrameConn) (h : Host) : Prop :=
  ∃ n frame c' h', readFrame c (h.endOfStream n) = some (frame, c', h') ∧
    (frame = none → h'.errno ≠ 0)

/-- The outcome that ends the wait for a `read`. -/
theorem readBytes_settled {h h' : Host} {n : Nat} {r : Except Errno (List UInt8)}
    (run : readBytes h n = some (r, h')) :
    (∃ e, r = .error e ∧ Host.settled h.reads = .err e :: h'.reads ∧ h'.errno = e) ∨
      ∃ all rest, r = .ok (all.take n) ∧ Host.settled h.reads = .data all :: rest ∧
        h'.reads = Host.remaining n all rest := by
  fun_induction readBytes h n with
  | case1 => cases run
  | case2 h h₁ first ih =>
    rw [Host.read_error first, Host.settled, if_pos rfl]
    exact ih run
  | case3 h e h₁ first other =>
    cases run
    refine .inl ⟨e, rfl, ?_, Host.read_errno first⟩
    rw [Host.read_error first, Host.settled, if_neg other]
  | case4 h bytes h₁ first =>
    cases run
    obtain ⟨all, rest, reads, rfl, left⟩ := Host.read_data first
    refine .inr ⟨all, rest, rfl, ?_, left⟩
    rw [reads, Host.settled]

theorem readBytes_eq_none {h : Host} {n : Nat} :
    readBytes h n = none ↔ Host.settled h.reads = [] := by
  fun_induction readBytes h n with
  | case1 h ended =>
    rw [Host.read_eq_none] at ended
    exact iff_of_true rfl (by rw [ended]; rfl)
  | case2 h h₁ first ih =>
    rw [ih, Host.read_error first, Host.settled, if_pos rfl]
  | case3 h e h₁ first other =>
    rw [Host.read_error first, Host.settled, if_neg other]
    exact iff_of_false (Option.some_ne_none _) (List.cons_ne_nil _ _)
  | case4 h bytes h₁ first =>
    obtain ⟨all, rest, reads, -, -⟩ := Host.read_data first
    rw [reads, Host.settled]
    exact iff_of_false (Option.some_ne_none _) (List.cons_ne_nil _ _)

theorem readBytes_of_error {h : Host} {rest : List ReadOutcome} {e : Errno} (n : Nat)
    (next : Host.settled h.reads = .err e :: rest) :
    ∃ h', readBytes h n = some (.error e, h') ∧ h'.errno = e ∧ h'.reads = rest := by
  cases run : readBytes h n with
  | none =>
    rw [readBytes_eq_none, next] at run
    cases run
  | some out =>
    obtain ⟨r, h'⟩ := out
    rcases readBytes_settled run with ⟨e', rfl, first, errno⟩ | ⟨all, rest', -, first, -⟩ <;>
      rw [next] at first <;> cases first
    exact ⟨h', rfl, errno, rfl⟩

theorem readBytes_of_data {h : Host} {bytes : List UInt8} (rest : List ReadOutcome) (n : Nat)
    (next : Host.settled h.reads = .data bytes :: rest) :
    ∃ h', readBytes h n = some (.ok (bytes.take n), h') ∧
      h'.reads = Host.remaining n bytes rest := by
  cases run : readBytes h n with
  | none =>
    rw [readBytes_eq_none, next] at run
    cases run
  | some out =>
    obtain ⟨r, h'⟩ := out
    rcases readBytes_settled run with ⟨e', -, first, -⟩ | ⟨all, rest', rfl, first, left⟩ <;>
      rw [next] at first <;> cases first
    exact ⟨h', rfl, left⟩

theorem delivers_of_readFrame {c c' : FrameConn} {h h' : Host} {frame : Option Frame}
    {outcomes : List ReadOutcome} {n : Nat}
    (reads : h.reads = outcomes ++ List.replicate n (.data []))
    (run : readFrame c h = some (frame, c', h')) : Delivers c outcomes := by
  fun_induction readFrame c h generalizing outcomes n with
  | case1 c h found c₁ errno scanned =>
    refine .found ?_
    rw [nextFrame_isSome_errno c 0 h.errno, scanned]
    rfl
  | case2 c h c₁ errno scanned failed => exact absurd (nextFrameLoop_room _ _ _ scanned).2 failed
  | case3 => cases run
  | case4 c h c₁ errno scanned noError e h₁ first =>
    cases run
    have scan := nextFrame_errno scanned 0
    rcases readBytes_settled first with ⟨e', same, next, isErrno⟩ | ⟨all, rest, same, -⟩
    · cases same
      dsimp only at next
      rw [reads, Host.settled_append] at next
      cases settled : Host.settled outcomes with
      | nil =>
        rw [settled, List.nil_append] at next
        cases n <;> cases next
      | cons outcome rest =>
        rw [settled, List.cons_append] at next
        obtain ⟨rfl, -⟩ := List.cons.inj next
        exact .failed scan settled
    · cases same
  | case5 c h c₁ errno scanned noError bytes h₁ first ih =>
    have scan := nextFrame_errno scanned 0
    rcases readBytes_settled first with ⟨e', same, -⟩ | ⟨all, rest, same, next, left⟩
    · cases same
    · cases same
      dsimp only at next
      rw [reads, Host.settled_append] at next
      cases settled : Host.settled outcomes with
      | nil =>
        rw [settled, List.nil_append] at next
        cases n with
        | zero => cases next
        | succ m =>
          obtain ⟨isEmpty, rfl⟩ := List.cons.inj next
          cases isEmpty
          have later := @ih [] m left run
          rw [List.take_nil, List.append_nil] at later
          exact .ended scan settled later
      | cons outcome rest' =>
        rw [settled, List.cons_append] at next
        obtain ⟨rfl, rfl⟩ := List.cons.inj next
        rw [← Host.remaining_append] at left
        exact .received scan settled (ih left run)

theorem readFrame_of_delivers {c : FrameConn} {outcomes : List ReadOutcome}
    (delivers : Delivers c outcomes) :
    ∃ n, ∀ h : Host, h.reads = outcomes ++ List.replicate n (.data []) →
      ∃ frame c' h', readFrame c h = some (frame, c', h') ∧
        (frame = none → .err h'.errno ∈ outcomes) := by
  induction delivers with
  | @found c outcomes isSome =>
    refine ⟨0, fun h _ => ?_⟩
    rw [nextFrame_isSome_errno c 0 h.errno] at isSome
    rcases scanned : nextFrame c h.errno with ⟨frame, c', errno⟩
    rw [scanned] at isSome
    obtain ⟨frame, rfl⟩ := Option.isSome_iff_exists.mp isSome
    refine ⟨some frame, c', { h with errno }, ?_, (fun none => by cases none)⟩
    rw [readFrame_eq, scanned]
  | @failed c c' outcomes rest e scanned next =>
    refine ⟨0, fun h reads => ?_⟩
    rw [List.replicate_zero, List.append_nil] at reads
    obtain ⟨h₁, run, errno, -⟩ := readBytes_of_error (h := { h with errno := 0 })
      (frameBufSize - c'.readBuf.length) (by rw [← next, reads])
    refine ⟨none, c', h₁, ?_, fun _ => Host.mem_of_settled ?_⟩
    · rw [readFrame_eq, nextFrame_errno scanned h.errno]
      simp only [ne_eq, not_true_eq_false, if_false, run]
    · rw [errno, next]
      exact List.mem_cons_self
  | @received c c' outcomes rest bytes scanned next later ih =>
    obtain ⟨n, returns⟩ := ih
    refine ⟨n, fun h reads => ?_⟩
    obtain ⟨h₁, run, left⟩ := readBytes_of_data (h := { h with errno := 0 })
      (rest ++ List.replicate n (.data [])) (frameBufSize - c'.readBuf.length)
      (by rw [reads, Host.settled_append, next]; rfl)
    rw [← Host.remaining_append] at left
    obtain ⟨frame, c₁, h', last, told⟩ := returns h₁ left
    refine ⟨frame, c₁, h', ?_, fun none => Host.mem_of_settled ?_⟩
    · rw [readFrame_eq, nextFrame_errno scanned h.errno]
      simp only [ne_eq, not_true_eq_false, if_false, run]
      exact last
    · rw [next]
      exact Host.err_mem_of_remaining (told none)
  | @ended c c' outcomes scanned next later ih =>
    obtain ⟨n, returns⟩ := ih
    refine ⟨n + 1, fun h reads => ?_⟩
    obtain ⟨h₁, run, left⟩ := readBytes_of_data (h := { h with errno := 0 })
      (List.replicate n (.data [])) (frameBufSize - c'.readBuf.length)
      (by rw [reads, Host.settled_append, next]; rfl)
    obtain ⟨frame, c₁, h', last, told⟩ := returns h₁ left
    refine ⟨frame, c₁, h', ?_, (fun none => by cases told none)⟩
    rw [readFrame_eq, nextFrame_errno scanned h.errno]
    simp only [ne_eq, not_true_eq_false, if_false, run, List.take_nil, List.append_nil]
    exact last

/-- `mdr_frameconn_read_frame` returns at the end of the stream when a frame was complete
in the buffer by then, or a `read` had failed. -/
theorem readEnds_iff_delivers {c : FrameConn} {h : Host}
    (errors : ∀ e, ReadOutcome.err e ∈ h.reads → e ≠ 0) : ReadEnds c h ↔ Delivers c h.reads := by
  constructor
  · rintro ⟨n, frame, c', h', run, -⟩
    exact delivers_of_readFrame (h := h.endOfStream n) rfl run
  · intro delivers
    obtain ⟨n, returns⟩ := readFrame_of_delivers delivers
    obtain ⟨frame, c', h', run, told⟩ := returns (h.endOfStream n) rfl
    exact ⟨n, frame, c', h', run, fun none => errors _ (told none)⟩

/-- What is to be written does not matter. -/
theorem Delivers.withWriteBuf {c : FrameConn} {outcomes : List ReadOutcome}
    (delivers : Delivers c outcomes) (writeBuf : List UInt8) :
    Delivers { c with writeBuf } outcomes := by
  induction delivers with
  | @found c outcomes isSome =>
    refine .found ?_
    have same : (nextFrame { c with writeBuf } 0).1 = (nextFrame c 0).1 :=
      (nextFrameLoop_other 0 c 0 0 writeBuf).1
    rw [same]
    exact isSome
  | failed scanned next => exact .failed (nextFrame_other scanned writeBuf 0) next
  | received scanned next later ih =>
    exact .received (nextFrame_other scanned writeBuf 0) next ih
  | ended scanned next later ih => exact .ended (nextFrame_other scanned writeBuf 0) next ih

/-! ## A read that fails -/

/-- With the outcomes listed a `read` fails with the errno before a frame is complete. -/
inductive FailsWith (e : Errno) : FrameConn → List ReadOutcome → Prop
  | failed {c c' : FrameConn} {outcomes rest : List ReadOutcome}
      (scanned : nextFrame c 0 = (none, c', 0)) (next : Host.settled outcomes = .err e :: rest) :
      FailsWith e c outcomes
  | received {c c' : FrameConn} {outcomes rest : List ReadOutcome} {bytes : List UInt8}
      (scanned : nextFrame c 0 = (none, c', 0)) (next : Host.settled outcomes = .data bytes :: rest)
      (later : FailsWith e
        { c' with readBuf := c'.readBuf ++ bytes.take (frameBufSize - c'.readBuf.length) }
        (Host.remaining (frameBufSize - c'.readBuf.length) bytes rest)) : FailsWith e c outcomes

theorem failsWith_of_readFrame {c c' : FrameConn} {h h' : Host}
    (run : readFrame c h = some (none, c', h')) : FailsWith h'.errno c h.reads := by
  fun_induction readFrame c h with
  | case1 => cases run
  | case2 h c c₁ errno scanned failed => exact absurd (nextFrameLoop_room _ _ _ scanned).2 failed
  | case3 => cases run
  | case4 c h c₁ errno scanned noError e h₁ first =>
    cases run
    rcases readBytes_settled first with ⟨e', same, next, isErrno⟩ | ⟨all, rest, same, -⟩
    · cases same
      rw [isErrno]
      exact .failed (nextFrame_errno scanned 0) next
    · cases same
  | case5 c h c₁ errno scanned noError bytes h₁ first ih =>
    rcases readBytes_settled first with ⟨e', same, -⟩ | ⟨all, rest, same, next, left⟩
    · cases same
    · cases same
      have later := ih run
      rw [left] at later
      exact .received (nextFrame_errno scanned 0) next later

theorem readFrame_of_failsWith {e : Errno} {c : FrameConn} {outcomes : List ReadOutcome}
    (fails : FailsWith e c outcomes) (h : Host) (reads : h.reads = outcomes) :
    ∃ c' h', readFrame c h = some (none, c', h') ∧ h'.errno = e := by
  induction fails generalizing h with
  | @failed c c' outcomes rest scanned next =>
    obtain ⟨h₁, run, errno, -⟩ := readBytes_of_error (h := { h with errno := 0 })
      (frameBufSize - c'.readBuf.length) (by rw [← next, reads])
    refine ⟨c', h₁, ?_, errno⟩
    rw [readFrame_eq, nextFrame_errno scanned h.errno]
    simp only [ne_eq, not_true_eq_false, if_false, run]
  | @received c c' outcomes rest bytes scanned next later ih =>
    obtain ⟨h₁, run, left⟩ := readBytes_of_data (h := { h with errno := 0 }) rest
      (frameBufSize - c'.readBuf.length) (by rw [← next, reads])
    obtain ⟨c₁, h', last, errno⟩ := ih h₁ left
    refine ⟨c₁, h', ?_, errno⟩
    rw [readFrame_eq, nextFrame_errno scanned h.errno]
    simp only [ne_eq, not_true_eq_false, if_false, run]
    exact last

theorem FailsWith.withWriteBuf {e : Errno} {c : FrameConn} {outcomes : List ReadOutcome}
    (fails : FailsWith e c outcomes) (writeBuf : List UInt8) :
    FailsWith e { c with writeBuf } outcomes := by
  induction fails with
  | failed scanned next => exact .failed (nextFrame_other scanned writeBuf 0) next
  | received scanned next later ih => exact .received (nextFrame_other scanned writeBuf 0) next ih

/-! ## A peer that closes the connection at once -/

/-- A buffer that the scan leaves as it is stays so. -/
theorem not_delivers {c : FrameConn} (scanned : nextFrame c 0 = (none, c, 0)) :
    ¬ Delivers c [] := by
  intro delivers
  generalize isEmpty : ([] : List ReadOutcome) = outcomes at delivers
  induction delivers with
  | found isSome =>
    rw [scanned] at isSome
    cases isSome
  | failed _ next =>
    rw [← isEmpty] at next
    cases next
  | received _ next =>
    rw [← isEmpty] at next
    cases next
  | ended again next later ih =>
    rw [scanned] at again
    cases again
    exact ih scanned rfl

/-- A connection that has received nothing, and a peer that closes it. -/
theorem not_readEnds_closed_at_once :
    ¬ ReadEnds fresh
      { errno := 0, reads := [], writes := [], mallocs := 0, wire := [], got := [] } := by
  rw [readEnds_iff_delivers fun e isIn => by cases isIn]
  refine not_delivers ?_
  decide +kernel

end FrameConn

end Libmdr
