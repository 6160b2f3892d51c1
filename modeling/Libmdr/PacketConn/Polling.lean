import Libmdr.FrameConn.Blocking
import Libmdr.PacketConn.Retransmission

/-!
# Polling and processing agree

`mdr_packetconn_poll_info` tells the caller how long it may sleep, in
milliseconds, and `mdr_packetconn_process_by_availability` decides anew whether
something is due. Both look at the write buffer, at `attempts` and at the timeout
of the first request; the timeout is one second after a clock reading, so that
the millisecond count is the exact difference rounded down.
-/

namespace Libmdr
set_option autoImplicit false

/-- The timeout is one second after a clock reading in the record. -/
def Timer.SetIn (past : List Event) (timer : Timer) : Prop :=
  ∃ now ∈ readingsIn past, timer.timeout = timespecAdd now packetAckTimeout

theorem Timer.SetIn.mono {past : List Event} {timer : Timer} (set : timer.SetIn past)
    (event : Event) : timer.SetIn (past ++ [event]) := by
  obtain ⟨now, isIn, same⟩ := set
  refine ⟨now, ?_, same⟩
  rw [readingsIn_append]
  exact List.mem_append_left _ isIn

/-- Requests that were sent have their timer set. -/
def Armed (past : List Event) (q : RequestQueue) : Prop :=
  ∀ timer ∈ q.timers, timer.attempts ≠ 0 → timer.SetIn past

/-- The timer of the first request is set. -/
theorem Armed.mapHead {past : List Event} {q : RequestQueue} {event : Event} {now : Timespec}
    {head : Request} {rest : List Request} {f : Request → Request} (armed : Armed past q)
    (first : q.requests = head :: rest) (reading : event.reading = some now)
    (timeout : (f head).timeout = timespecAdd now packetAckTimeout) :
    Armed (past ++ [event]) (q.mapHead f) := by
  intro timer isIn attempted
  rw [RequestQueue.timers_mapHead first] at isIn
  rcases List.mem_cons.mp isIn with rfl | isRest
  · refine ⟨now, ?_, timeout⟩
    rw [readingsIn_append]
    exact List.mem_append_right _ (mem_readingsIn.mpr ⟨event, List.mem_cons_self, reading⟩)
  · refine (armed timer ?_ attempted).mono event
    rw [RequestQueue.timers_cons first]
    exact List.mem_cons_of_mem _ isRest

theorem Armed.sublist {past : List Event} {q q' : RequestQueue} (armed : Armed past q)
    (event : Event) (kept : q'.timers.Sublist q.timers) : Armed (past ++ [event]) q' :=
  fun timer isIn attempted => (armed timer (kept.subset isIn) attempted).mono event

theorem Armed.step {past : List Event} {t t' : Session} {event : Event}
    (armed : Armed past t.queue) (isOpen : t'.closing = false) (step : Session.Step t event t') :
    Armed (past ++ [event]) t'.queue := by
  cases step with
  | accepted q request closing unsent waiting =>
    obtain rfl : closing = false := isOpen
    intro timer isIn attempted
    change timer ∈ (q.enqueue request).timers at isIn
    rw [RequestQueue.timers_enqueue] at isIn
    rcases List.mem_append.mp isIn with old | new
    · exact (armed timer old attempted).mono _
    · rw [List.mem_singleton.mp new] at attempted
      exact absurd unsent attempted
  | wrote q head rest result now first due =>
    by_cases failed : result < 0
    · rw [if_pos failed]
      exact armed.sublist _ (List.Sublist.refl _)
    · rw [if_neg failed]
      exact armed.mapHead first rfl rfl
  | expired q head rest now first sent late spent =>
    refine armed.sublist _ ?_
    rw [RequestQueue.timers_advance]
    cases head.acked <;> exact List.tail_sublist _
  | ackedOnly | replied =>
    refine armed.sublist _ ?_
    rw [RequestQueue.timers_advance]
    exact List.tail_sublist _
  | ackedWaits q head rest frame now first isAck isMatch waits =>
    exact armed.mapHead first rfl rfl
  | closing => cases isOpen
  | owed | ignored | unexpected | wroteAck | notified =>
    exact armed.sublist _ (List.Sublist.refl _)

theorem armed_run {t u : Session} {events : List Event} (run : Trace.Run Session.Step t events u)
    (start : Armed [] t.queue) (isOpen : u.closing = false) : Armed events u.queue := by
  refine Trace.Run.invariant (fun past t => t.closing = false → Armed past t.queue)
    (fun _ => start) ?_ run isOpen
  exact fun past t event t' armed step isOpen => (armed (step.was_open isOpen)).step isOpen step

/-! ## The first request -/

/-- What the send half does with a first request whose timer ran out. -/
def retransmitOrFail (env : Env) (now : Timespec) (head : Request) (s : State) :
    Option (Int × State) :=
  if head.acked ∨ packetMaxTries ≤ head.attempts then (giveUp env now head s).map ((0, ·))
  else transmit env now head s

theorem transmit_result {env : Env} {now : Timespec} {head : Request} {s s' : State} {result : Int}
    (run : transmit env now head s = some (result, s')) : result = -1 ∨ result = 0 := by
  obtain ⟨written, fconn, host, -, rfl, -⟩ := transmit_cases run
  unfold reported
  split
  · exact .inl rfl
  · exact .inr rfl

/-- With an empty write buffer nothing is flushed. -/
theorem flushPart_empty {s : State} (empty : s.conn.fconn.writeBuf = []) :
    flushPart true s = some (0, s) := by
  rw [flushPart, if_pos rfl, Option.bind_eq_bind, FrameConn.flushWrite_empty empty]
  rfl

/-- With nothing to flush or read, processing is the send half. -/
theorem process_idle {env : Env} {now : Timespec} {s : State}
    (empty : s.conn.fconn.writeBuf = []) :
    process env now false true s = (sendPart env now true s).map fun out =>
      (if out.1 < 0 then -1 else 0, out.2) := by
  simp only [process, flushPart_empty empty, Option.bind_eq_bind, Option.bind_some]
  cases sendPart env now true s with
  | none => rfl
  | some out =>
    obtain ⟨result, t⟩ := out
    by_cases failed : result < 0 <;> simp [failed]

theorem sendPart_early {env : Env} {now : Timespec} {s : State} {head : Request}
    {rest : List Request} (first : s.conn.queue.requests = head :: rest) (sent : head.attempts ≠ 0)
    (early : ¬ 0 < timespecCompare now head.timeout) : sendPart env now true s = some (0, s) := by
  simp only [sendPart, first, if_neg sent, if_neg early]

theorem sendPart_late {env : Env} {now : Timespec} {s : State} {head : Request}
    {rest : List Request} (first : s.conn.queue.requests = head :: rest) (sent : head.attempts ≠ 0)
    (late : 0 < timespecCompare now head.timeout) :
    sendPart env now true s = retransmitOrFail env now head s := by
  simp only [sendPart, first, if_neg sent, if_pos late, retransmitOrFail]
  split
  · cases giveUp env now head s <;> rfl
  · rfl

theorem retransmitOrFail_result {env : Env} {now : Timespec} {head : Request} {s s' : State}
    {result : Int} (run : retransmitOrFail env now head s = some (result, s')) :
    result = -1 ∨ result = 0 := by
  unfold retransmitOrFail at run
  split at run
  · obtain ⟨t, -, same⟩ := Option.map_eq_some_iff.mp run
    cases same
    exact .inr rfl
  · exact transmit_result run

/-- A late call takes the branch, and returns what it gives. -/
theorem process_late {env : Env} {now : Timespec} {s : State} {head : Request}
    {rest : List Request} (empty : s.conn.fconn.writeBuf = [])
    (first : s.conn.queue.requests = head :: rest) (sent : head.attempts ≠ 0)
    (late : 0 < timespecCompare now head.timeout) :
    process env now false true s = retransmitOrFail env now head s := by
  rw [process_idle empty, sendPart_late first sent late]
  cases run : retransmitOrFail env now head s with
  | none => rfl
  | some out =>
    obtain ⟨result, t⟩ := out
    rcases retransmitOrFail_result run with rfl | rfl <;> rfl

/-! ## The poll's timeout -/

/-- What the poll reports when nothing is to be written. -/
theorem pollInfo_quiet {now : Timespec} {s : State} (quiet : (pollInfo now s).write = false) :
    s.conn.fconn.writeBuf = [] ∧
      ((s.conn.queue.requests = [] ∧ (pollInfo now s).timeout = -1) ∨
        ∃ head rest, s.conn.queue.requests = head :: rest ∧ head.attempts ≠ 0 ∧
          ¬ 0 < timespecCompare now head.timeout) := by
  unfold pollInfo at quiet ⊢
  cases first : s.conn.queue.requests with
  | nil =>
    rw [first] at quiet
    have empty : ¬ 0 < s.conn.fconn.writeBuf.length := of_decide_eq_false quiet
    exact ⟨List.eq_nil_of_length_eq_zero (Nat.eq_zero_of_not_pos empty), .inl ⟨rfl, rfl⟩⟩
  | cons head rest =>
    rw [first] at quiet
    simp only [Bool.or_eq_false_iff, decide_eq_false_iff_not] at quiet
    obtain ⟨⟨empty, sent⟩, early⟩ := quiet
    have empty : ¬ 0 < s.conn.fconn.writeBuf.length := of_decide_eq_false empty
    refine ⟨List.eq_nil_of_length_eq_zero (Nat.eq_zero_of_not_pos empty), .inr ?_⟩
    exact ⟨head, rest, rfl, sent, early⟩

/-- The poll's timeout is the time left in milliseconds, rounded down. -/
theorem pollInfo_timeout {now : Timespec} {s : State} {head : Request} {rest : List Request}
    (first : s.conn.queue.requests = head :: rest) (sent : head.attempts ≠ 0)
    (valid : head.timeout.Valid) (validNow : now.Valid)
    (early : now.nanos ≤ head.timeout.nanos) :
    0 ≤ (pollInfo now s).timeout ∧
      (pollInfo now s).timeout * 1000000 ≤ head.timeout.nanos - now.nanos ∧
      head.timeout.nanos - now.nanos < ((pollInfo now s).timeout + 1) * 1000000 := by
  obtain ⟨⟨nonneg, small⟩, left⟩ := timespecSub_spec valid validNow
  have notPast : ¬ (timespecSub head.timeout now).sec < 0 := by
    unfold Timespec.nanos at left early
    omega
  have timeout : (pollInfo now s).timeout = (timespecSub head.timeout now).sec * 1000 +
      (timespecSub head.timeout now).nsec / 1000000 := by
    simp only [pollInfo, first, if_neg sent, if_neg notPast]
    rw [Int.tdiv_eq_ediv_of_nonneg nonneg]
  rw [timeout, ← left]
  unfold Timespec.nanos
  omega

/-- The poll at `now` and the calls behind it agree: up to the timeout (at any time
for -1) a call does nothing, and from a millisecond behind it on a call takes the
branch that sends again or fails. -/
structure PollAgrees (env : Env) (now : Timespec) (s : State) : Prop where
  sleeps : ∀ later, later.Valid → now.nanos ≤ later.nanos →
    (pollInfo now s).timeout = -1 ∨
      later.nanos ≤ now.nanos + (pollInfo now s).timeout * 1000000 →
    process env later false true s = some (0, s)
  wakes : 0 ≤ (pollInfo now s).timeout → ∀ later, later.Valid →
    now.nanos + ((pollInfo now s).timeout + 1) * 1000000 ≤ later.nanos →
    ∃ head rest, s.conn.queue.requests = head :: rest ∧
      process env later false true s = retransmitOrFail env later head s

/-- **Polling and processing agree** whenever the poll asks for no write. Its timeout
is at most a second unless the clock was ahead of `now`, so C's `int` holds it. -/
theorem pollInfo_agrees {env : Env} {calls : List Call} {fconn : FrameConn} {host : Host}
    {s : State} {now : Timespec} (ran : run env calls (State.start fconn host) = some s)
    (valid : ∀ t ∈ readings calls, t.Valid) (validNow : now.Valid)
    (quiet : (pollInfo now s).write = false) :
    PollAgrees env now s ∧
      ((∀ t ∈ readings calls, t.nanos ≤ now.nanos) → (pollInfo now s).timeout ≤ 1000) := by
  obtain ⟨empty, ⟨none, timeout⟩ | ⟨head, rest, first, sent, early⟩⟩ := pollInfo_quiet quiet
  · refine ⟨⟨fun later _ _ _ => ?_, fun nonneg => ?_⟩, fun _ => by rw [timeout]; decide⟩
    · rw [process_idle empty]
      simp [sendPart, none]
    · rw [timeout] at nonneg
      exact absurd nonneg (by decide)
  obtain ⟨records, recorded⟩ := run_log ran
  have armed : Armed s.log s.conn.queue :=
    armed_run records.run (fun _ isIn => by cases isIn) rfl
  obtain ⟨reading, isIn, same⟩ := armed head.timer
    (by rw [RequestQueue.timers_cons first]; exact List.mem_cons_self) sent
  have wasRead := recorded.readings reading isIn
  have same : head.timeout = timespecAdd reading packetAckTimeout := same
  have validHead : head.timeout.Valid := same ▸ timespecAdd_valid (valid reading wasRead)
  have second : head.timeout.nanos = reading.nanos + 1000000000 := by
    rw [same]
    exact timespecAdd_nanos reading
  rw [timespecCompare_pos validNow validHead, Int.not_lt] at early
  obtain ⟨nonneg, least, most⟩ := pollInfo_timeout first sent validHead validNow early
  refine ⟨⟨?_, ?_⟩, ?_⟩
  · intro later validLater _ inTime
    rw [process_idle empty, sendPart_early first sent]
    · rfl
    · rw [timespecCompare_pos validLater validHead, Int.not_lt]
      rcases inTime with never | soon <;> omega
  · intro _ later validLater late
    refine ⟨head, rest, first, process_late empty first sent ?_⟩
    rw [timespecCompare_pos validLater validHead]
    omega
  · intro behind
    have notAhead := behind reading wasRead
    omega

/-- A request that was sent half a second ago. -/
theorem pollInfo_agrees_power_off :
    ∃ s, run Env.idle [.user powerOff, .process ⟨0, 0⟩ false true]
        (State.start .fresh (.listing [] [.wrote 100])) = some s ∧
      PollAgrees Env.idle ⟨0, 500000000⟩ s ∧
      ((∀ t ∈ readings [.user powerOff, .process ⟨0, 0⟩ false true],
        t.nanos ≤ Timespec.nanos ⟨0, 500000000⟩) → (pollInfo ⟨0, 500000000⟩ s).timeout ≤ 1000) := by
  obtain ⟨s, ran, quiet⟩ := (Option.any_eq_true _ _).mp (show (run Env.idle
    [.user powerOff, .process ⟨0, 0⟩ false true]
    (State.start .fresh (.listing [] [.wrote 100]))).any
    (fun s => decide ((pollInfo ⟨0, 500000000⟩ s).write = false)) = true by decide +kernel)
  exact ⟨s, ran, pollInfo_agrees ran (by decide) (by decide) (of_decide_eq_true quiet)⟩

end Libmdr
