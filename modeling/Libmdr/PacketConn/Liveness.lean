import Libmdr.PacketConn.Budget
import Libmdr.PacketConn.Completion
import Libmdr.PacketConn.FirstSend
import Libmdr.PacketConn.InTurn
import Libmdr.PacketConn.Wire

/-!
# Every request ends

A connection whose socket takes what it is offered, and whose process calls are more than a second
apart now and then, ends every request that it can write: with what arrives, or by giving it up.
Neither what the peer sends, nor what user code and its callbacks ask for meanwhile, nor calls in
between can keep a request waiting.
-/

namespace Libmdr
set_option autoImplicit false

/-! ## A socket that takes what it is offered -/

/-- Bytes are accepted, or a signal arrives. -/
def WriteOutcome.Accepts : WriteOutcome → Prop
  | .wrote _ => True
  | .err e => e = eintr

namespace FrameConn

/-- Nothing is pending, and no write will fail. -/
structure Willing (c : FrameConn) (h : Host) : Prop where
  drained : c.writeBuf = []
  accepts : ∀ outcome ∈ h.writes, outcome.Accepts

variable {heap : Heap} {c c' : FrameConn} {h h' : Host} {frame : Frame} {result : Int}

theorem writeFrameLoop_willing {escaped : List UInt8} {written : Nat} (willing : Willing c h)
    (run : writeFrameLoop escaped written c h = some (result, c', h')) :
    result = 0 ∧ Willing c' h' := by
  fun_induction writeFrameLoop escaped written c h with
  | case1 => cases run
  | case2 written h more n h₁ wrote ih =>
    obtain ⟨-, -, k, writes, -⟩ := Host.write_ok wrote
    refine ih ⟨willing.drained, fun outcome isIn => willing.accepts outcome ?_⟩ run
    rw [writes]
    exact List.mem_cons_of_mem _ isIn
  | case3 written h more h₁ interrupted ih =>
    obtain ⟨-, -, writes⟩ := Host.write_error interrupted
    refine ih ⟨willing.drained, fun outcome isIn => willing.accepts outcome ?_⟩ run
    rw [writes]
    exact List.mem_cons_of_mem _ isIn
  | case4 written h more e h₁ failed other =>
    obtain ⟨-, -, writes⟩ := Host.write_error failed
    exact absurd (willing.accepts (.err e) (by rw [writes]; exact List.mem_cons_self)) other
  | case5 written h more e h₁ failed other =>
    obtain ⟨-, -, writes⟩ := Host.write_error failed
    exact absurd (willing.accepts (.err e) (by rw [writes]; exact List.mem_cons_self)) other
  | case6 written h done =>
    cases run
    exact ⟨rfl, willing⟩

/-- Such a socket stays so, and a frame that is tried is written. -/
theorem writeFrame_willing (willing : Willing c h)
    (run : writeFrame heap c h frame = some (result, c', h')) :
    Willing c' h' ∧ (Tried heap c h frame → result = 0) := by
  have used := writeFrame_used run
  obtain ⟨flushed, h₁, -, ⟨untried, -, rfl, -⟩ | ⟨h₂, -, tried, outcomes, loop⟩⟩ :=
    writeFrame_cases run
  · have isUntried : ¬ Tried heap c' h frame := fun tried => untried ⟨tried, by
      rw [frameOutcomes, if_pos willing.drained]
      rfl⟩
    have kept := used.same_iff.mpr fun calls =>
      (anyWrite_writeFrameCalls.mp calls).elim (fun some => some willing.drained) isUntried
    exact ⟨⟨willing.drained, by rw [kept]; exact willing.accepts⟩,
      fun tried => absurd tried isUntried⟩
  · rw [frameOutcomes, if_pos willing.drained] at outcomes
    have next : Willing c h₂ := ⟨willing.drained, by
      rw [← Option.some.inj outcomes]
      exact willing.accepts⟩
    obtain ⟨zero, later⟩ := writeFrameLoop_willing next loop
    exact ⟨later, fun _ => zero⟩

/-- With memory, a frame of this size is tried. -/
theorem tried_of_small (never : heap.NeverFails) (willing : Willing c h) (wf : frame.WellFormed)
    (small : 2 * frame.payloadLength.toNat + 16 ≤ frameBufSize) : Tried heap c h frame := by
  obtain ⟨out, h', escapes⟩ := escapeFrame_some never frame h
  have length := (length_escaped wf).2
  refine ⟨by rw [escapes]; rfl, ?_⟩
  rw [willing.drained, List.length_nil]
  omega

end FrameConn

/-- Nothing is pending, and no write will fail. -/
def State.Willing (s : State) : Prop := s.conn.fconn.Willing s.host

theorem userCall_writes {env : Env} {s t : State} {c : UserCall} (run : userCall env s c = some t) :
    t.host.writes = s.host.writes :=
  writes_of_hidden (f := fun s => userCall env s c)
    (fun writes => userCall_hidden (Host.hidden_withWrites writes) env s c) run

theorem walk_willing (env : Env) : Walk env (fun _ _ => True) fun s t => s.Willing → t.Willing where
  refl := fun _ => id
  trans := fun front back willing => back (front willing)
  user := fun {s t c} _ run willing => by
    obtain ⟨new, added⟩ := userCall_added run
    exact ⟨by rw [added.fconn]; exact willing.drained,
      by rw [userCall_writes run]; exact willing.accepts⟩
  record := fun _ _ _ => id
  notify := fun _ _ _ => id
  fields := fun {s t} fconn _ host _ _ willing =>
    ⟨by rw [fconn]; exact willing.drained, by rw [host]; exact willing.accepts⟩
  flush := fun {s result fconn host} flush willing => by
    rw [FrameConn.flushWrite_empty willing.drained] at flush
    cases flush
    exact willing
  write := fun wrote _ willing => (FrameConn.writeFrame_willing willing wrote).1
  read := fun {s frame fconn host head now} read willing =>
    ⟨(FrameConn.readFrame_sameWriting read).1.trans willing.drained,
      fun outcome isIn => willing.accepts outcome (by
        rw [← FrameConn.readFrame_writes read]
        exact isIn)⟩
  parse := fun {s frame packet host head} parsed willing =>
    ⟨willing.drained, fun outcome isIn => willing.accepts outcome (by
      rw [← Packet.fromFrame_writes parsed]
      exact isIn)⟩

/-! ## A call that finds the first request due -/

/-- A callback adds requests behind all others. -/
theorem callError_line {env : Env} {request : Request} {e : Errno} {s t : State}
    (run : callError env request e s = some t) :
    ∃ new : List Request, t.conn.queue.line = s.conn.queue.line ++ new.map Request.waiting ∧
      ∀ other ∈ new, s.nextHandle ≤ other.handle := by
  unfold callError at run
  split at run
  · cases run
    exact ⟨[], (List.append_nil _).symm, fun _ isIn => by cases isIn⟩
  · obtain ⟨new, added⟩ := runCallback_added run
    refine ⟨new, ?_, fun other isIn => (added.numbered.bounds other isIn).1⟩
    rw [added.queue, RequestQueue.line_foldl_enqueue]
    rfl

theorem giveUp_line {env : Env} {now : Timespec} {head : Request} {s t : State}
    (run : giveUp env now head s = some t) :
    ∃ new : List Request,
      t.conn.queue.line = (s.conn.queue.line ++ new.map Request.waiting).tail ∧
      ∀ other ∈ new, s.nextHandle ≤ other.handle := by
  simp only [giveUp, Option.bind_eq_bind, Option.bind_eq_some_iff] at run
  obtain ⟨u, called, run⟩ := run
  cases run
  obtain ⟨new, line, later⟩ := callError_line called
  refine ⟨new, ?_, ?_⟩
  · rw [State.advanceFrameQueue_queue, RequestQueue.line_advance, line]
    cases head.acked <;> rfl
  · intro other isIn
    have behind := later other isIn
    revert behind
    cases head.acked <;> exact id

/-- The first request is to be written or given up. -/
def Due (now : Timespec) (head : Request) : Prop :=
  head.attempts = 0 ∨ 0 < timespecCompare now head.timeout

section Due

variable {env : Env} {now : Timespec} {s t : State} {head : Request} {rest : List Request}
  {result : Int} {handle : Handle}

/-- A first request that is due takes a step. -/
theorem sendPart_steps (never : env.heap.NeverFails) (willing : s.Willing)
    (first : s.conn.queue.requests = head :: rest) (own : head.handle ≤ handle)
    (old : handle < s.nextHandle) (wf : head.frame.WellFormed)
    (small : 2 * head.frame.payloadLength.toNat + 16 ≤ frameBufSize) (due : Due now head)
    (run : sendPart env now true s = some (result, t)) :
    result = 0 ∧ stepsTo handle t.conn.queue.line < stepsTo handle s.conn.queue.line := by
  by_cases writeDue : WriteDue now true head
  · rw [sendPart_of_due first writeDue] at run
    obtain ⟨written, fconn, host, wrote, rfl, rfl⟩ := transmit_cases run
    have zero := (FrameConn.writeFrame_willing willing wrote).2
      (FrameConn.tried_of_small never willing wf small)
    subst zero
    refine ⟨rfl, ?_⟩
    have fewer : (Waiting.sent now head.waiting).steps < head.waiting.steps :=
      Waiting.steps_sent (Request.attempts_lt_of_due writeDue.due)
    rw [if_neg (Int.lt_irrefl 0), State.setQueue_queue, RequestQueue.line_mapHead first,
      RequestQueue.line_cons first]
    change stepsTo handle (Waiting.sent now head.waiting :: _) < _
    rw [stepsTo_cons (x := head.waiting) own, stepsTo_cons (x := head.waiting.sent now) own]
    omega
  · -- It was sent before, its time is over, and it is not written again.
    unfold WriteDue at writeDue
    split at writeDue
    · exact absurd rfl writeDue
    rename_i sent
    have late : 0 < timespecCompare now head.timeout := due.resolve_left sent
    have spent : head.acked ∨ packetMaxTries ≤ head.attempts :=
      Classical.not_not.mp fun again => writeDue ⟨late, again⟩
    simp only [sendPart, first, if_neg sent, if_pos late, if_pos spent, Option.bind_eq_bind,
      Option.bind_eq_some_iff] at run
    obtain ⟨u, given, run⟩ := run
    cases run
    obtain ⟨new, line, later⟩ := giveUp_line given
    have behind : stepsTo handle (new.map Request.waiting) = 0 := by
      refine stepsTo_eq_zero fun x isIn => ?_
      obtain ⟨other, isNew, rfl⟩ := List.mem_map.mp isIn
      exact Nat.lt_of_lt_of_le old (later other isNew)
    refine ⟨rfl, ?_⟩
    rw [line, RequestQueue.line_cons first, List.cons_append, List.tail_cons, stepsTo_append,
      behind, stepsTo_cons (x := head.waiting) own]
    have some := head.waiting.steps_pos
    omega

/-- A call with an empty write buffer sends, and then reads or not. -/
theorem process_of_drained {readable : Bool} (drained : s.conn.fconn.writeBuf = [])
    (run : process env now readable true s = some (result, t)) :
    ∃ sent u, sendPart env now true s = some (sent, u) ∧
      ∃ events, Records u false events t false := by
  have flush : flushPart true s = some (0, s) := by
    rw [flushPart_of_flushWrite (FrameConn.flushWrite_empty drained)]
    rfl
  simp only [process, flush, Option.bind_eq_bind, Option.bind_some, Int.lt_irrefl, if_false,
    Option.bind_eq_some_iff] at run
  obtain ⟨⟨sent, u⟩, send, run⟩ := run
  refine ⟨sent, u, send, ?_⟩
  dsimp only at run
  split at run
  · cases run
    exact ⟨[], .refl _ _⟩
  · split at run
    · exact receivePart_records run
    · cases run
      exact ⟨[], .refl _ _⟩

end Due

theorem Records.stepsTo_le {handle : Handle} {s t : State} {events : List Event}
    (records : Records s false events t false) (old : handle < s.nextHandle) :
    stepsTo handle t.conn.queue.line ≤ stepsTo handle s.conn.queue.line :=
  run_stepsTo (Session.run_line records.run rfl) fun request isIn =>
    Nat.lt_of_lt_of_le old (records.numbered.bounds request isIn).1

/-! ## Turns -/

instance (a b : Timespec) : Decidable (a.MoreThanASecond b) :=
  inferInstanceAs (Decidable (a.nanos + 1000000000 < b.nanos))

/-- The number of process calls that may write and come more than a second after the last one
that was counted. -/
def turns : Option Timespec → List Call → Nat
  | _, [] => 0
  | turn, .process now _ true :: rest =>
    if ∀ last ∈ turn, last.MoreThanASecond now then turns (some now) rest + 1 else turns turn rest
  | turn, .process _ _ false :: rest => turns turn rest
  | turn, .user _ :: rest => turns turn rest

/-- The state is reached from a new connection. -/
def State.Reached (env : Env) (s : State) : Prop :=
  ∃ calls fconn host, run env calls (State.start fconn host) = some s

theorem State.Reached.call {env : Env} {s t : State} {c : Call} (reached : s.Reached env)
    (ran : Libmdr.call env s c = some t) : t.Reached env := by
  obtain ⟨calls, fconn, host, before⟩ := reached
  refine ⟨calls ++ [c], fconn, host, ?_⟩
  rw [run, List.foldlM_append]
  exact Option.bind_eq_some_iff.mpr ⟨s, before, by rw [List.foldlM_cons, ran]; rfl⟩

theorem State.Reached.increasing {env : Env} {s : State} (reached : s.Reached env) :
    s.conn.queue.requests.Pairwise fun a b => a.handle < b.handle := by
  obtain ⟨calls, fconn, host, ran⟩ := reached
  exact (run_queue_inTurn ran).increasing

theorem State.Reached.wellFormed {env : Env} {s : State} (reached : s.Reached env) :
    ∀ request ∈ s.conn.queue.requests, request.frame.WellFormed := by
  obtain ⟨calls, fconn, host, ran⟩ := reached
  obtain ⟨records, recorded⟩ := run_log ran
  have owes : ((State.start fconn host).session false).OwesEndings := fun _ isIn => by cases isIn
  have sound : s.conn.queue.Sound :=
    (sound_run records.run (sound_start fconn) owes rfl recorded.sourced).1
  exact fun request isIn => (sound.all request isIn).frame

/-- In front of a request whose steps are counted. -/
structure Ready (handle : Handle) (turn : Option Timespec) (bound : Nat) (latest : Int) (s : State) :
    Prop where
  nearing : Nearing handle turn bound s.conn.queue.line
  timed : Timed latest s.conn.queue.line
  willing : s.Willing
  old : handle < s.nextHandle

section Ready

variable {env : Env} {handle : Handle} {turn : Option Timespec} {bound : Nat} {latest : Int}
  {s t : State}

/-- Whatever a call does. -/
theorem Ready.call {c : Call} {later : Int} (ready : Ready handle turn bound latest s)
    (ran : Libmdr.call env s c = some t) (mono : latest ≤ later)
    (reading : ∀ now ∈ readings [c], now.Valid ∧ now.nanos ≤ later) :
    Ready handle turn bound later t := by
  obtain ⟨events, records⟩ := call_records ran
  obtain ⟨events', log, recorded⟩ := call_appends ran
  obtain rfl : events = events' := List.append_cancel_left (records.log.symm.trans log)
  have line := Session.run_line records.run rfl
  refine ⟨?_, ?_, ?_, Nat.lt_of_lt_of_le ready.old records.numbered.mono⟩
  · exact run_nearing line ready.nearing fun request isIn =>
      Nat.lt_of_lt_of_le ready.old (records.numbered.bounds request isIn).1
  · exact run_timed line (ready.timed.mono mono) fun now isIn => reading now (recorded.readings now isIn)
  · have once : run env [c] s = some t := by rw [run, List.foldlM_cons, ran]; rfl
    exact (walk_willing env).run (fun _ _ _ => trivial) (fun _ _ _ => trivial) once ready.willing

/-- A turn uses up a step, or finds that one was used since the last turn. -/
theorem Ready.steps_turn {now : Timespec} {readable : Bool} {result : Int} (reached : s.Reached env)
    (ready : Ready handle turn bound latest s) (never : env.heap.NeverFails) (valid : now.Valid)
    (apart : ∀ last ∈ turn, last.MoreThanASecond now)
    (ran : process env now readable true s = some (result, t)) :
    stepsTo handle t.conn.queue.line ≤ bound - 1 := by
  obtain ⟨sent, u, send, more, records⟩ := process_of_drained ready.willing.drained ran
  obtain ⟨before, sending⟩ := sendPart_records send
  have front := sending.stepsTo_le ready.old
  have back := records.stepsTo_le (Nat.lt_of_lt_of_le ready.old sending.numbered.mono)
  have steps := ready.nearing.steps
  by_cases own : ∃ head rest, s.conn.queue.requests = head :: rest ∧ head.handle ≤ handle
  · obtain ⟨head, rest, first, own⟩ := own
    have isHead : head.waiting ∈ s.conn.queue.line := by
      rw [RequestQueue.line_cons first]
      exact List.mem_cons_self
    by_cases due : Due now head
    · have stepped := (sendPart_steps never ready.willing first own ready.old
        (reached.wellFormed head (RequestQueue.head_mem first))
        (ready.nearing.small _ isHead own) due send).2
      omega
    · -- Its timeout is not over, so it was set behind the last turn.
      have isSent : head.attempts ≠ 0 := fun fresh => due (.inl fresh)
      have timeoutValid := (ready.timed _ isHead isSent).1
      have early : now.nanos ≤ head.timeout.nanos := by
        by_contra late
        exact due (.inr ((timespecCompare_pos valid timeoutValid).mpr (Int.not_le.mp late)))
      rcases ready.nearing.calm _ isHead own isSent with ⟨last, isLast, old⟩ | fewer
      · have far : last.nanos + 1000000000 < now.nanos := apart last isLast
        change head.timeout.nanos ≤ last.nanos + 1000000000 at old
        omega
      · omega
  · have none : stepsTo handle s.conn.queue.line = 0 := by
      refine stepsTo_eq_zero fun x isIn => ?_
      obtain ⟨request, isRequest, rfl⟩ := List.mem_map.mp isIn
      have increasing := reached.increasing
      cases first : s.conn.queue.requests with
      | nil =>
        rw [first] at isRequest
        cases isRequest
      | cons head rest =>
        have later : handle < head.handle := Nat.lt_of_not_le fun le => own ⟨head, rest, first, le⟩
        rw [first] at isRequest increasing
        rcases List.mem_cons.mp isRequest with rfl | isRest
        · exact later
        · exact Nat.lt_trans later ((List.pairwise_cons.mp increasing).1 request isRest)
    omega

theorem Ready.after_turn {now : Timespec} {readable : Bool} {result : Int}
    (reached : s.Reached env) (ready : Ready handle turn bound latest s)
    (never : env.heap.NeverFails) (valid : now.Valid) (mono : latest ≤ now.nanos)
    (apart : ∀ last ∈ turn, last.MoreThanASecond now)
    (ran : process env now readable true s = some (result, t)) :
    Ready handle (some now) (bound - 1) now.nanos t := by
  have called : Libmdr.call env s (.process now readable true) = some t := by
    rw [Libmdr.call, ran]
    rfl
  have after := ready.call called mono (List.forall_mem_singleton.mpr ⟨valid, Int.le_refl _⟩)
  have steps := ready.steps_turn reached never valid apart ran
  refine ⟨⟨steps, ?_, after.nearing.small⟩, after.timed, after.willing, after.old⟩
  exact fun x isIn own isSent => .inl ⟨now, rfl, (after.timed x isIn isSent).2⟩

/-- Each turn of a run counts. -/
theorem Ready.run {calls : List Call} (ready : Ready handle turn bound latest s)
    (reached : s.Reached env) (never : env.heap.NeverFails)
    (ran : Libmdr.run env calls s = some t) (clocked : Clocked (readings calls))
    (early : ∀ now ∈ readings calls, latest ≤ now.nanos) :
    stepsTo handle t.conn.queue.line ≤ bound - turns turn calls := by
  induction calls generalizing s turn bound latest with
  | nil =>
    cases ran
    exact ready.nearing.steps
  | cons c rest ih =>
    rw [Libmdr.run, List.foldlM_cons, Option.bind_eq_bind, Option.bind_eq_some_iff] at ran
    obtain ⟨u, first, later⟩ := ran
    have next := reached.call first
    cases c with
    | user c =>
      refine ih (ready.call first (Int.le_refl _) fun _ isIn => by cases isIn) next later clocked early
    | process now readable writable =>
      have isReading : now ∈ readings (.process now readable writable :: rest) := List.mem_cons_self
      obtain ⟨valid, forward⟩ := clocked
      have rest' : Clocked (readings rest) :=
        ⟨fun t isIn => valid t (List.mem_cons_of_mem _ isIn), (List.pairwise_cons.mp forward).2⟩
      have early' : ∀ t ∈ readings rest, now.nanos ≤ t.nanos := (List.pairwise_cons.mp forward).1
      have mono := early now isReading
      have kept := ready.call first mono
        (List.forall_mem_singleton.mpr ⟨valid now isReading, Int.le_refl _⟩)
      cases writable with
      | false => exact ih kept next later rest' early'
      | true =>
        rw [turns]
        split
        · rename_i apart
          obtain ⟨⟨result, v⟩, processed, rfl⟩ := Option.map_eq_some_iff.mp first
          have less := ih (ready.after_turn reached never (valid now isReading) mono apart processed)
            next later rest' early'
          rwa [Nat.sub_sub, Nat.add_comm 1] at less
        · exact ih kept next later rest' early'

end Ready

/-! ## Runs -/

/-- In a line with increasing handles the requests up to the `i`-th are the first ones. -/
theorem length_filter_line {requests : List Request} {i : Nat} {request : Request}
    (increasing : requests.Pairwise fun a b => a.handle < b.handle)
    (isAt : requests[i]? = some request) :
    (∀ other ∈ requests, other.handle ≤ request.handle → other ∈ requests.take (i + 1)) ∧
      (requests.filter fun other => decide (other.handle ≤ request.handle)).length ≤ i + 1 := by
  have split := List.take_append_drop (i + 1) requests
  have isIn : request ∈ requests.take (i + 1) := by
    obtain ⟨inside, rfl⟩ := List.getElem?_eq_some_iff.mp isAt
    exact List.mem_take_iff_getElem.mpr ⟨i, by omega, rfl⟩
  have behind : ∀ other ∈ requests.drop (i + 1), request.handle < other.handle := by
    rw [← split] at increasing
    exact fun other isOther => (List.pairwise_append.mp increasing).2.2 request isIn other isOther
  constructor
  · intro other isOther le
    rw [← split] at isOther
    rcases List.mem_append.mp isOther with early | late
    · exact early
    · exact absurd le (Nat.not_le.mpr (behind other late))
  · rw [← split, List.filter_append, List.length_append]
    have none : (requests.drop (i + 1)).filter
        (fun other => decide (other.handle ≤ request.handle)) = [] :=
      List.filter_eq_nil_iff.mpr fun other isOther => by simpa using behind other isOther
    have few := List.length_filter_le (fun other => decide (other.handle ≤ request.handle))
      (requests.take (i + 1))
    have short := List.length_take_le (i + 1) requests
    rw [none, List.length_nil]
    omega

/-- The timeouts in a state were set before a later reading. -/
theorem run_timeouts {env : Env} {calls : List Call} {fconn : FrameConn} {host : Host} {s : State}
    {latest : Int} (ran : run env calls (State.start fconn host) = some s)
    (before : ∀ now ∈ readings calls, now.Valid ∧ now.nanos ≤ latest) :
    Timed latest s.conn.queue.line := by
  obtain ⟨records, recorded⟩ := run_log ran
  refine run_timed (Session.run_line records.run rfl) (fun _ isIn => by cases isIn) ?_
  exact fun now isIn => before now (recorded.readings now isIn)

theorem turns_le (turn : Option Timespec) (calls : List Call) :
    turns turn calls ≤ (readings calls).length := by
  induction calls generalizing turn with
  | nil => exact Nat.le_refl 0
  | cons c rest ih =>
    cases c with
    | user c => exact ih turn
    | process now readable writable =>
      have shown : (readings (.process now readable writable :: rest)).length =
        (readings rest).length + 1 := rfl
      rw [shown]
      cases writable with
      | false => exact Nat.le_succ_of_le (ih turn)
      | true =>
        rw [turns]
        split
        · exact Nat.succ_le_succ (ih _)
        · exact Nat.le_succ_of_le (ih turn)

theorem run_served {env : Env} {calls : List Call} {fconn : FrameConn} {host : Host} {s : State}
    (ran : run env calls (State.start fconn host) = some s) :
    Served s.log s.conn.queue.requests := by
  obtain ⟨events, records⟩ := run_records ran
  obtain rfl : s.log = events := records.log
  exact records.served

theorem Served.accepted {log : List Event} {waiting : List Request} {request : Request}
    (served : Served log waiting) (waits : request ∈ waiting) :
    request.key ∈ (acceptedIn log).map Request.key := by
  rw [served.order]
  exact List.mem_append_right _ (List.mem_map_of_mem waits)

/-- A request that was accepted and waits no more has ended. -/
theorem Served.finished {log : List Event} {waiting : List Request} {request : Request}
    (served : Served log waiting) (accepted : request.key ∈ (acceptedIn log).map Request.key)
    (gone : request.handle ∉ waiting.map Request.handle) :
    ∃ done ∈ finishedIn log, done.1.key = request.key ∧
      callsTo log request.handle = (request.callOf done.2).toList := by
  rw [served.order] at accepted
  rcases List.mem_append.mp accepted with isDone | isWaiting
  · obtain ⟨done, isIn, same⟩ := List.mem_map.mp isDone
    refine ⟨done, isIn, same, ?_⟩
    have handle : done.1.handle = request.handle := congrArg Prod.fst same
    have callbacks : done.1.callbacks = request.callbacks := congrArg Prod.snd same
    rw [← handle, served.ended done isIn]
    cases done.2 <;> simp only [Request.callOf, handle, callbacks]
  · obtain ⟨other, isIn, same⟩ := List.mem_map.mp isWaiting
    exact absurd (List.mem_map.mpr ⟨other, isIn, congrArg Prod.fst same⟩) gone

/-- A request that is small, with those in front of it, leaves the queue. -/
theorem run_leaves {env : Env} {calls later : List Call} {fconn : FrameConn} {host : Host}
    {s t : State} {i : Nat} {request : Request}
    (ran : run env calls (State.start fconn host) = some s) (goesOn : run env later s = some t)
    (clocked : Clocked (readings (calls ++ later))) (never : env.heap.NeverFails)
    (willing : s.Willing) (waits : s.conn.queue.requests[i]? = some request)
    (small : ∀ other ∈ s.conn.queue.requests.take (i + 1),
      2 * other.frame.payloadLength.toNat + 16 ≤ frameBufSize)
    (enough : 5 * (i + 1) < turns none later) :
    request.handle ∉ t.conn.queue.requests.map Request.handle := by
  have reached : s.Reached env := ⟨calls, fconn, host, ran⟩
  obtain ⟨isFirst, few⟩ := length_filter_line reached.increasing waits
  obtain ⟨records, -⟩ := run_log ran
  have old : request.handle < s.nextHandle := by
    obtain ⟨accepted, isThere, same⟩ :=
      List.mem_map.mp ((run_served ran).accepted (List.mem_of_getElem? waits))
    have bounds := (records.numbered.bounds accepted isThere).2
    rwa [show accepted.handle = request.handle from congrArg Prod.fst same] at bounds
  -- The first reading behind `s` is no earlier than those in front.
  have split : readings (calls ++ later) = readings calls ++ readings later :=
    List.filterMap_append
  rw [split] at clocked
  obtain ⟨forwardNow, forwardLater, across⟩ := List.pairwise_append.mp clocked.forward
  have counted := turns_le none later
  cases isReadings : readings later with
  | nil =>
    rw [isReadings, List.length_nil] at counted
    omega
  | cons now rest =>
    have isNow : now ∈ readings later := by
      rw [isReadings]
      exact List.mem_cons_self
    have timed : Timed now.nanos s.conn.queue.line := run_timeouts ran fun t isReading =>
      ⟨clocked.valid t (List.mem_append_left _ isReading), across t isReading now isNow⟩
    have fewSteps : stepsTo request.handle s.conn.queue.line ≤ 5 * (i + 1) := by
      refine Nat.le_trans (stepsTo_le _ _) (Nat.mul_le_mul_left 5 ?_)
      rw [RequestQueue.line, List.filter_map, List.length_map]
      exact few
    have ready : Ready request.handle none (stepsTo request.handle s.conn.queue.line + 1)
        now.nanos s := by
      refine ⟨⟨Nat.le_succ _, fun _ _ _ _ => .inr (Nat.le_refl _), ?_⟩, timed, willing, old⟩
      intro x isWaiting own
      obtain ⟨other, isOther, rfl⟩ := List.mem_map.mp isWaiting
      exact small other (isFirst other isOther own)
    have early : ∀ t ∈ readings later, now.nanos ≤ t.nanos := by
      rw [isReadings] at forwardLater ⊢
      exact List.forall_mem_cons.mpr ⟨Int.le_refl _, (List.pairwise_cons.mp forwardLater).1⟩
    have left := ready.run reached never goesOn
      ⟨fun t isReading => clocked.valid t (List.mem_append_right _ isReading), forwardLater⟩ early
    intro stays
    obtain ⟨other, isOther, same⟩ := List.mem_map.mp stays
    have some : 0 < stepsTo request.handle t.conn.queue.line :=
      stepsTo_pos (List.mem_map_of_mem isOther) (Nat.le_of_eq same)
    omega

/-- **Every request ends.** From any state that a connection has reached, with nothing in the write
buffer, a socket that accepts what it is offered and memory: when process is called, allowed to
write, more than `5 * (i + 1)` times a second apart, the `i`-th request in the queue, small enough
with those in front of it to be written, has ended, and the callback of its outcome was called
once. What arrives, other calls in between, and requests that user code and callbacks make
meanwhile are arbitrary. -/
theorem run_ends {env : Env} {calls later : List Call} {fconn : FrameConn} {host : Host}
    {s t : State} {i : Nat} {request : Request}
    (ran : run env calls (State.start fconn host) = some s) (goesOn : run env later s = some t)
    (clocked : Clocked (readings (calls ++ later))) (never : env.heap.NeverFails)
    (willing : s.Willing) (waits : s.conn.queue.requests[i]? = some request)
    (small : ∀ other ∈ s.conn.queue.requests.take (i + 1),
      2 * other.frame.payloadLength.toNat + 16 ≤ frameBufSize)
    (enough : 5 * (i + 1) < turns none later) :
    ∃ done ∈ finishedIn t.log, done.1.key = request.key ∧
      callsTo t.log request.handle = (request.callOf done.2).toList := by
  have whole : run env (calls ++ later) (State.start fconn host) = some t := by
    rw [run, List.foldlM_append]
    exact Option.bind_eq_some_iff.mpr ⟨s, ran, goesOn⟩
  obtain ⟨more, grows⟩ := run_records goesOn
  refine (run_served whole).finished ?_
    (run_leaves ran goesOn clocked never willing waits small enough)
  rw [grows.log, acceptedIn_append, List.map_append]
  exact List.mem_append_left _ ((run_served ran).accepted (List.mem_of_getElem? waits))

/-- Nothing arrives: the request is written three times, and given up. -/
theorem run_ends_power_off :
    ∃ s t request, run Env.idle [.user powerOff]
        (State.start .fresh (.listing [] [.wrote 100, .err eintr, .wrote 5, .wrote 7, .wrote 100])) =
          some s ∧
      run Env.idle [.process ⟨0, 0⟩ false true, .process ⟨2, 0⟩ false true,
        .process ⟨4, 0⟩ false true, .process ⟨6, 0⟩ false true, .process ⟨8, 0⟩ false true,
        .process ⟨10, 0⟩ false true] s = some t ∧
      s.conn.queue.requests[0]? = some request ∧
      ∃ done ∈ finishedIn t.log, done.1.key = request.key ∧
        callsTo t.log request.handle = (request.callOf done.2).toList := by
  obtain ⟨s, ran, shown⟩ := (Option.any_eq_true _ _).mp (show (run Env.idle [.user powerOff]
    (State.start .fresh
      (.listing [] [.wrote 100, .err eintr, .wrote 5, .wrote 7, .wrote 100]))).any
    (fun s => s.conn.queue.requests[0]?.any fun request => (run Env.idle
      [.process ⟨0, 0⟩ false true, .process ⟨2, 0⟩ false true, .process ⟨4, 0⟩ false true,
        .process ⟨6, 0⟩ false true, .process ⟨8, 0⟩ false true, .process ⟨10, 0⟩ false true] s).any
      fun _ => decide (s.conn.fconn.writeBuf = [] ∧
        s.host.writes = [.wrote 100, .err eintr, .wrote 5, .wrote 7, .wrote 100] ∧
        s.conn.queue.requests = [request] ∧ request.frame.payloadLength = 3)) = true
    by decide +kernel)
  obtain ⟨request, waits, shown⟩ := (Option.any_eq_true _ _).mp shown
  obtain ⟨t, goesOn, shown⟩ := (Option.any_eq_true _ _).mp shown
  obtain ⟨drained, writes, only, length⟩ := of_decide_eq_true shown
  have willing : s.Willing := by
    refine ⟨drained, ?_⟩
    rw [writes]
    simp [WriteOutcome.Accepts]
  refine ⟨s, t, request, ran, goesOn, waits, run_ends ran goesOn ⟨by decide, by decide⟩
    (fun _ => rfl) willing waits ?_ (by decide)⟩
  intro other isOther
  rw [only] at isOther
  rw [List.mem_singleton.mp (List.mem_of_mem_take isOther), length]
  decide

end Libmdr
