import Libmdr.PacketConn.Model

/-!
# The parts of a call

What the flush, the writing of a frame and the send half can do. Each is taken apart once, and
the proofs about calls go through these cases.
-/

namespace Libmdr
set_option autoImplicit false

/-- The state after `mdr_frameconn_read_frame`. -/
def State.afterRead (s : State) (fconn : FrameConn) (host : Host) : State :=
  { s with conn := { s.conn with fconn }, host }

/-- The frame of the first request is to be written: for the first time, or again. -/
def WriteDue (now : Timespec) (writable : Bool) (head : Request) : Prop :=
  if head.attempts = 0 then writable = true
  else 0 < timespecCompare now head.timeout ∧ ¬ (head.acked ∨ packetMaxTries ≤ head.attempts)

/-- What a failed call makes of a call that reports errors: -1 unless it would block. -/
def reported (result : Int) (h : Host) : Int := if result < 0 ∧ ¬ wouldBlock h then -1 else 0

/-- An errno after which a caller may go on. -/
def Harmless (e : Errno) : Prop := e = eagain ∨ e = ewouldblock

theorem wouldBlock_iff (h : Host) : wouldBlock h = true ↔ Harmless h.errno := by
  unfold wouldBlock Harmless
  rw [Bool.or_eq_true, decide_eq_true_eq, decide_eq_true_eq]

theorem reported_cases (result : Int) (h : Host) :
    (reported result h = -1 ∧ result < 0 ∧ ¬ Harmless h.errno) ∨
      (reported result h = 0 ∧ (result < 0 → Harmless h.errno)) := by
  unfold reported
  split
  · rename_i failed
    exact .inl ⟨rfl, failed.1, fun harmless => failed.2 ((wouldBlock_iff h).mpr harmless)⟩
  · rename_i goesOn
    refine .inr ⟨rfl, fun failed => (wouldBlock_iff h).mp ?_⟩
    exact Classical.not_not.mp fun fatal => goesOn ⟨failed, fatal⟩

theorem reported_fatal {result : Int} {h : Host} (failed : result < 0)
    (fatal : ¬ Harmless h.errno) : reported result h = -1 :=
  if_pos ⟨failed, fun blocks => fatal ((wouldBlock_iff h).mp blocks)⟩

theorem reported_goesOn {result : Int} {h : Host} (goesOn : result < 0 → Harmless h.errno) :
    reported result h = 0 :=
  if_neg fun both => both.2 ((wouldBlock_iff h).mpr (goesOn both.1))

section Cases

variable {env : Env} {now : Timespec} {writable : Bool} {s t : State} {result : Int}

theorem flushPart_cases (run : flushPart writable s = some (result, t)) :
    (writable = false ∧ result = 0 ∧ t = s) ∨
      ∃ flushed fconn host, writable = true ∧
        s.conn.fconn.flushWrite s.host = some (flushed, fconn, host) ∧
        t = s.afterRead fconn host ∧ result = reported flushed host := by
  cases writable with
  | false =>
    cases run
    exact .inl ⟨rfl, rfl, rfl⟩
  | true =>
    simp only [flushPart, if_true, Option.bind_eq_bind, Option.bind_eq_some_iff] at run
    obtain ⟨⟨flushed, fconn, host⟩, flush, run⟩ := run
    refine .inr ⟨flushed, fconn, host, rfl, flush, ?_⟩
    unfold reported
    dsimp only at run
    split at run <;> rename_i failed <;> cases run
    · exact ⟨rfl, (if_pos failed).symm⟩
    · exact ⟨rfl, (if_neg failed).symm⟩

/-- The write is recorded, and counted when it succeeds. -/
theorem transmit_cases {head : Request} (run : transmit env now head s = some (result, t)) :
    ∃ written fconn host, s.conn.fconn.writeFrame env.heap s.host head.frame =
        some (written, fconn, host) ∧ result = reported written host ∧
      t = if written < 0 then (s.afterRead fconn host).record [.wrote head written now]
        else ((s.afterRead fconn host).record [.wrote head written now]).setQueue
          (s.conn.queue.mapHead (Request.sent now)) := by
  simp only [transmit, Option.bind_eq_bind, Option.bind_eq_some_iff] at run
  obtain ⟨⟨written, fconn, host⟩, wrote, run⟩ := run
  refine ⟨written, fconn, host, wrote, ?_⟩
  dsimp only at run
  unfold reported
  by_cases failed : written < 0
  · rw [if_pos failed] at run ⊢
    split at run <;> rename_i fatal <;> cases run
    · exact ⟨(if_pos ⟨failed, fatal⟩).symm, rfl⟩
    · exact ⟨(if_neg fun both => fatal both.2).symm, rfl⟩
  · rw [if_neg failed] at run ⊢
    cases run
    exact ⟨(if_neg fun both => failed both.1).symm, rfl⟩

/-- The send half writes the frame of the first request, or makes no call on the socket. -/
theorem sendPart_cases (run : sendPart env now writable s = some (result, t)) :
    (∃ head rest, s.conn.queue.requests = head :: rest ∧ WriteDue now writable head ∧
        transmit env now head s = some (result, t)) ∨
      (∀ head rest, s.conn.queue.requests = head :: rest → ¬ WriteDue now writable head) ∧
        result = 0 ∧ (t = s ∨ ∃ head rest, s.conn.queue.requests = head :: rest ∧
          head.attempts ≠ 0 ∧ 0 < timespecCompare now head.timeout ∧
          (head.acked ∨ packetMaxTries ≤ head.attempts) ∧ giveUp env now head s = some t) := by
  unfold sendPart at run
  unfold WriteDue
  split at run
  · rename_i empty
    cases run
    exact .inr ⟨(fun head rest first => by rw [empty] at first; cases first), rfl, .inl rfl⟩
  · rename_i head rest first
    have only {p : Request → Prop} (holds : p head) (head' : Request) (rest' : List Request)
        (first' : s.conn.queue.requests = head' :: rest') : p head' := by
      rw [first] at first'
      cases first'
      exact holds
    split at run
    · rename_i fresh
      split at run
      · rename_i isWritable
        exact .inl ⟨head, rest, first, by rw [if_pos fresh]; exact isWritable, run⟩
      · rename_i notWritable
        cases run
        refine .inr ⟨only ?_, rfl, .inl rfl⟩
        rw [if_pos fresh]
        exact notWritable
    · rename_i sent
      split at run
      · rename_i late
        split at run
        · rename_i spent
          simp only [Option.bind_eq_bind, Option.bind_eq_some_iff] at run
          obtain ⟨u, gaveUp, run⟩ := run
          cases run
          refine .inr ⟨only ?_, rfl, .inr ⟨head, rest, first, sent, late, spent, gaveUp⟩⟩
          rw [if_neg sent]
          exact fun due => due.2 spent
        · rename_i notSpent
          exact .inl ⟨head, rest, first, by rw [if_neg sent]; exact ⟨late, notSpent⟩, run⟩
      · rename_i early
        cases run
        refine .inr ⟨only ?_, rfl, .inl rfl⟩
        rw [if_neg sent]
        exact fun due => early due.1

theorem WriteDue.due {head : Request} (due : WriteDue now writable head) :
    head.attempts = 0 ∨ 0 < timespecCompare now head.timeout ∧ head.acked = false ∧
      head.attempts < packetMaxTries := by
  unfold WriteDue at due
  split at due
  · rename_i fresh
    exact .inl fresh
  · obtain ⟨late, again⟩ := due
    rw [not_or, Bool.not_eq_true, Nat.not_le] at again
    exact .inr ⟨late, again⟩

end Cases

/-- The two halves of a call that does not read. -/
theorem process_false_cases {env : Env} {now : Timespec} {writable : Bool} {s t : State}
    {result : Int} (run : process env now false writable s = some (result, t)) :
    ∃ flushed u, flushPart writable s = some (flushed, u) ∧
      (flushed < 0 ∧ result = -1 ∧ t = u ∨
        ¬ flushed < 0 ∧ ∃ sent, sendPart env now writable u = some (sent, t) ∧
          result = if sent < 0 then -1 else 0) := by
  simp only [process, Option.bind_eq_bind, Bool.false_eq_true, if_false,
    Option.bind_eq_some_iff] at run
  obtain ⟨⟨flushed, u⟩, flush, run⟩ := run
  refine ⟨flushed, u, flush, ?_⟩
  dsimp only at run
  split at run
  · rename_i failed
    cases run
    exact .inl ⟨failed, rfl, rfl⟩
  · rename_i goesOn
    simp only [Option.bind_eq_some_iff] at run
    obtain ⟨⟨sent, v⟩, send, run⟩ := run
    dsimp only at run
    split at run <;> rename_i failed <;> cases run
    · exact .inr ⟨goesOn, sent, send, (if_pos failed).symm⟩
    · exact .inr ⟨goesOn, sent, send, (if_neg failed).symm⟩

/-- A call relates its ends as its parts do. -/
theorem process_related {env : Env} {now : Timespec} {readable writable : Bool} {s t : State}
    {result : Int} (related : State → State → Prop)
    (trans : ∀ s t u, related s t → related t u → related s u)
    (flush : ∀ result s t, flushPart writable s = some (result, t) → related s t)
    (send : ∀ result s t, sendPart env now writable s = some (result, t) → related s t)
    (receive : ∀ result s t, receivePart env now s = some (result, t) → related s t)
    (run : process env now readable writable s = some (result, t)) : related s t := by
  simp only [process, Option.bind_eq_bind, Option.bind_eq_some_iff] at run
  obtain ⟨⟨flushed, u⟩, flushes, run⟩ := run
  have first := flush flushed s u flushes
  dsimp only at run
  split at run
  · cases run
    exact first
  · simp only [Option.bind_eq_some_iff] at run
    obtain ⟨⟨sent, v⟩, sends, run⟩ := run
    have second := trans s u v first (send sent u v sends)
    dsimp only at run
    split at run
    · cases run
      exact second
    · split at run
      · exact trans s v t second (receive result v t run)
      · cases run
        exact second

end Libmdr
