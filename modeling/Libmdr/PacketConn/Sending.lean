import Libmdr.PacketConn.Completion

/-!
# Sent before it is completed

The receive half looks at the first request whether or not it has been sent: it
compares sequence ids and reply specifiers, not `attempts`. A request that was
never sent can so be acknowledged or completed by a frame meant for another one.
Exactly the runs without such a frame keep the order of sending and completing.
-/

namespace Libmdr
set_option autoImplicit false

/-- The frame of a request was handed to `mdr_frameconn_write_frame`, which returned 0. -/
def Transmitted (log : List Event) (handle : Handle) : Prop :=
  ∃ request result now, .wrote request result now ∈ log ∧ 0 ≤ result ∧ request.handle = handle

/-- A frame or packet that does not fit a first request that was never sent. -/
def Event.Timely : Event → Prop
  | .received frame (some head) _ =>
    head.attempts = 0 → frame.dataType = frameDataTypeAck → ackMatches frame head = false
  | .parsed packet (some head) =>
    head.attempts = 0 → replySpecifierMatches head.expectedReply packet = false
  | _ => True

/-- An event that marks a request as acknowledged, or ends it successfully. -/
def Event.succeeds : Event → Option Request
  | .acked request => some request
  | .finished request (.ack _) => some request
  | .finished request (.reply _) => some request
  | _ => none

/-- What an event says is in order after what is recorded before it: a request is
acknowledged, ended with success, and has its result callback called only when
its frame was sent. -/
structure InOrder (before : List Event) (event : Event) : Prop where
  attempted : ∀ request, event.succeeds = some request → request.attempts ≠ 0
  transmitted : ∀ request, event.succeeds = some request → Transmitted before request.handle
  called : ∀ call packet, event = .called call → call.arg = .result packet →
    Transmitted before call.handle

/-- Every event of a record is in order. -/
def SentFirst (log : List Event) : Prop :=
  ∀ before event after, log = before ++ event :: after → InOrder before event

theorem Transmitted.mono {before : List Event} {handle : Handle} (more : List Event)
    (transmitted : Transmitted before handle) : Transmitted (before ++ more) handle := by
  obtain ⟨request, result, now, isIn, success, same⟩ := transmitted
  exact ⟨request, result, now, List.mem_append_left _ isIn, success, same⟩

/-- An event that says nothing about success. -/
theorem InOrder.of_neutral {before : List Event} {event : Event} (neutral : event.succeeds = none)
    (noCall : ∀ call packet, event = .called call → call.arg ≠ .result packet) :
    InOrder before event where
  attempted := by
    intro request succeeds
    rw [neutral] at succeeds
    cases succeeds
  transmitted := by
    intro request succeeds
    rw [neutral] at succeeds
    cases succeeds
  called := fun call packet isCall isResult => absurd isResult (noCall call packet isCall)

theorem InOrder.mono {before : List Event} {event : Event} (more : List Event)
    (inOrder : InOrder before event) : InOrder (before ++ more) event where
  attempted := inOrder.attempted
  transmitted := fun request succeeds => (inOrder.transmitted request succeeds).mono more
  called := fun call packet isCall isResult => (inOrder.called call packet isCall isResult).mono more

/-- The end of a request that was sent is in order. -/
theorem inOrder_ending {before : List Event} {head : Request} {outcome : Outcome}
    (sent : head.attempts ≠ 0) (transmitted : Transmitted before head.handle) :
    ∀ event ∈ head.ending outcome, InOrder before event := by
  intro event isIn
  rcases List.mem_cons.mp isIn with rfl | isCall
  · refine ⟨?_, ?_, fun call packet isCall => by cases isCall⟩
    · intro request succeeds
      cases outcome <;> cases succeeds <;> exact sent
    · intro request succeeds
      cases outcome <;> cases succeeds <;> exact transmitted
  · obtain ⟨call, made, rfl⟩ := List.mem_map.mp isCall
    have handle := Request.callOf_handle (Option.mem_toList.mp made)
    constructor
    · exact fun request succeeds => by cases succeeds
    · exact fun request succeeds => by cases succeeds
    intro call' packet same isResult
    cases same
    rw [handle]
    exact transmitted

/-- The end of a request without success is in order whether or not it was sent. -/
theorem inOrder_ending_of_error {before : List Event} {head : Request} {outcome : Outcome}
    (fails : outcome = .noAck ∨ outcome = .noReply ∨ outcome = .closed) :
    ∀ event ∈ head.ending outcome, InOrder before event := by
  intro event isIn
  rcases List.mem_cons.mp isIn with rfl | isCall
  · refine .of_neutral ?_ fun call packet isCall => by cases isCall
    rcases fails with rfl | rfl | rfl <;> rfl
  · obtain ⟨call, made, rfl⟩ := List.mem_map.mp isCall
    refine .of_neutral rfl ?_
    intro call' packet same isResult
    cases same
    rcases fails with rfl | rfl | rfl <;>
      obtain ⟨fn, -, rfl⟩ := Option.map_eq_some_iff.mp (Option.mem_toList.mp made) <;>
      cases isResult

/-! ## The invariant -/

/-- Requests with attempts were sent, and what is owed is in order. -/
structure Honest (past : List Event) (t : Session) : Prop where
  sent : ∀ request ∈ t.queue.requests, request.attempts ≠ 0 → Transmitted past request.handle
  owed : ∀ event ∈ t.owed, InOrder past event

theorem mem_requests_enqueue {q : RequestQueue} {request r : Request}
    (isIn : r ∈ (q.enqueue request).requests) :
    r ∈ q.requests ∨ r.attempts = request.attempts ∧ r.handle = request.handle := by
  unfold RequestQueue.enqueue at isIn
  split at isIn
  · rw [List.mem_singleton.mp isIn]
    exact .inr ⟨rfl, rfl⟩
  · rcases List.mem_append.mp isIn with old | new
    · exact .inl old
    · rw [List.mem_singleton.mp new]
      exact .inr ⟨rfl, rfl⟩

theorem mem_requests_advance {q : RequestQueue} {r : Request}
    (isIn : r ∈ q.advance.requests) :
    ∃ old ∈ q.requests, r.attempts = old.attempts ∧ r.handle = old.handle := by
  obtain ⟨nextSequenceId, requests⟩ := q
  rcases requests with _ | ⟨head, _ | ⟨next, rest⟩⟩
  · cases isIn
  · cases isIn
  · rcases List.mem_cons.mp isIn with rfl | later
    · exact ⟨next, by simp, rfl, rfl⟩
    · exact ⟨r, by simp [later], rfl, rfl⟩

theorem Honest.advance {past : List Event} {q : RequestQueue}
    (sent : ∀ request ∈ q.requests, request.attempts ≠ 0 → Transmitted past request.handle) :
    ∀ request ∈ q.advance.requests, request.attempts ≠ 0 → Transmitted past request.handle := by
  intro request isIn attempted
  obtain ⟨old, wasIn, attempts, handle⟩ := mem_requests_advance isIn
  rw [handle]
  exact sent old wasIn (attempts ▸ attempted)

/-- The first request is changed, and was sent if the change says so. -/
theorem Honest.mapHead {past : List Event} {q : RequestQueue} {head : Request}
    {rest : List Request} (first : q.requests = head :: rest) {f : Request → Request}
    (sent : ∀ request ∈ q.requests, request.attempts ≠ 0 → Transmitted past request.handle)
    (changed : (f head).attempts ≠ 0 → Transmitted past (f head).handle) :
    ∀ request ∈ (q.mapHead f).requests,
      request.attempts ≠ 0 → Transmitted past request.handle := by
  intro request isIn attempted
  rw [RequestQueue.requests_mapHead first] at isIn
  rcases List.mem_cons.mp isIn with rfl | later
  · exact changed attempted
  · exact sent request (RequestQueue.rest_mem first later) attempted

theorem Honest.mono {past : List Event} {requests : List Request} (more : List Event)
    (sent : ∀ request ∈ requests, request.attempts ≠ 0 → Transmitted past request.handle) :
    ∀ request ∈ requests, request.attempts ≠ 0 → Transmitted (past ++ more) request.handle :=
  fun request isIn attempted => (sent request isIn attempted).mono more

/-- The first request was sent when an ACK that comes in time is accepted for it. -/
theorem Event.Timely.attempted {frame : Frame} {head : Request} {now : Timespec}
    (timely : (Event.received frame (some head) now).Timely)
    (isAck : frame.dataType = frameDataTypeAck) (isMatch : ackMatches frame head = true) :
    head.attempts ≠ 0 := by
  intro unsent
  rw [timely unsent isAck] at isMatch
  cases isMatch

theorem Honest.step {past : List Event} {t t' : Session} {event : Event} (honest : Honest past t)
    (timely : event.Timely) (step : Session.Step t event t') : Honest (past ++ [event]) t' := by
  obtain ⟨sent, owed⟩ := honest
  have kept := Honest.mono [event] sent
  cases step with
  | owed q event rest closing =>
    exact ⟨kept, fun later isIn => (owed later (List.mem_cons_of_mem _ isIn)).mono _⟩
  | accepted q request closing unsent waiting =>
    refine ⟨?_, fun _ isIn => by cases isIn⟩
    intro r isIn attempted
    have old : r ∈ q.requests := by
      cases closing with
      | false =>
        rcases mem_requests_enqueue isIn with old | ⟨attempts, -⟩
        · exact old
        · exact absurd (attempts.trans unsent) attempted
      | true =>
        rcases List.mem_append.mp isIn with old | new
        · exact old
        · rw [List.mem_singleton.mp new] at attempted
          exact absurd unsent attempted
    exact kept r old attempted
  | wrote q head rest result now first due =>
    refine ⟨?_, fun _ isIn => by cases isIn⟩
    split
    · exact kept
    · rename_i success
      refine Honest.mapHead first kept fun _ => ?_
      exact ⟨head, result, now, by simp, Int.not_lt.mp success, rfl⟩
  | expired q head rest now first attempted late spent =>
    constructor
    · apply Honest.advance
      cases head.acked <;> exact kept
    · apply inOrder_ending_of_error
      cases head.acked <;> simp
  | ackedOnly q head rest frame now first isAck isMatch only =>
    have attempted := timely.attempted isAck isMatch
    have transmitted := kept head (RequestQueue.head_mem first) attempted
    exact ⟨Honest.advance kept, inOrder_ending attempted transmitted⟩
  | ackedWaits q head rest frame now first isAck isMatch waits =>
    have attempted := timely.attempted isAck isMatch
    have transmitted := kept head (RequestQueue.head_mem first) attempted
    constructor
    · exact Honest.mapHead first kept fun _ => transmitted
    · intro event isOwed
      rw [List.mem_singleton.mp isOwed]
      refine ⟨?_, ?_, fun call packet isCall => by cases isCall⟩ <;> intro request succeeds <;>
        cases succeeds
      · exact attempted
      · exact transmitted
  | ignored q frame now other => exact ⟨kept, fun _ isIn => by cases isIn⟩
  | replied q head rest packet first isMatch =>
    have attempted : head.attempts ≠ 0 := by
      intro unsent
      rw [timely unsent] at isMatch
      cases isMatch
    have transmitted := kept head (RequestQueue.head_mem first) attempted
    exact ⟨Honest.advance kept, inOrder_ending attempted transmitted⟩
  | unexpected q packet other => exact ⟨kept, fun _ isIn => by cases isIn⟩
  | closing q head rest closing first =>
    constructor
    · exact fun r isIn => kept r (RequestQueue.rest_mem first isIn)
    · exact inOrder_ending_of_error (by simp)
  | wroteAck q frame result => exact ⟨kept, fun _ isIn => by cases isIn⟩
  | notified q subscription packet => exact ⟨kept, fun _ isIn => by cases isIn⟩

/-- What can be owed is never a frame or a packet. -/
theorem Event.Timely.of_isEnding {event : Event} (isEnding : event.IsEnding = true) :
    event.Timely := by
  cases event <;> trivial

/-- A first request that was not sent succeeds with an untimely frame. -/
theorem Session.Step.untimely {t t' : Session} {event : Event} (step : Session.Step t event t')
    (owes : t.OwesEndings) (untimely : ¬ event.Timely) :
    ∃ early ∈ t'.owed, ∃ request, early.succeeds = some request ∧ request.attempts = 0 := by
  cases step with
  | owed q event rest closing => exact absurd (.of_isEnding (owes event List.mem_cons_self)) untimely
  | ackedOnly q head rest frame now first isAck isMatch only =>
    simp only [Event.Timely, not_forall] at untimely
    obtain ⟨unsent, -⟩ := untimely
    exact ⟨_, List.mem_cons_self, head, rfl, unsent⟩
  | ackedWaits q head rest frame now first isAck isMatch waits =>
    simp only [Event.Timely, not_forall] at untimely
    obtain ⟨unsent, -⟩ := untimely
    exact ⟨_, List.mem_cons_self, head, rfl, unsent⟩
  | ignored q frame now other =>
    cases isHead : q.requests.head? with
    | none => simp [isHead, Event.Timely] at untimely
    | some head =>
      simp only [isHead, Event.Timely, not_forall] at untimely
      obtain ⟨-, isAck, isMatch⟩ := untimely
      exact absurd (other isAck head isHead) isMatch
  | replied q head rest packet first isMatch =>
    simp only [Event.Timely, not_forall] at untimely
    obtain ⟨unsent, -⟩ := untimely
    exact ⟨_, List.mem_cons_self, head, rfl, unsent⟩
  | unexpected q packet other =>
    cases isHead : q.requests.head? with
    | none => simp [isHead, Event.Timely] at untimely
    | some head =>
      simp only [isHead, Event.Timely, not_forall] at untimely
      obtain ⟨-, isMatch⟩ := untimely
      exact absurd (other head isHead) isMatch
  | _ => exact absurd trivial untimely

/-- A success of a request that was never sent is out of order. -/
theorem not_sentFirst {log : List Event} {event : Event} {request : Request} (isIn : event ∈ log)
    (succeeds : event.succeeds = some request) (unsent : request.attempts = 0) :
    ¬ SentFirst log := by
  intro inOrder
  obtain ⟨before, after, split⟩ := List.append_of_mem isIn
  exact (inOrder before event after split).attempted request succeeds unsent

/-- **When nothing succeeds before it was sent.** In a run every request is sent
before it is acknowledged, ended with success, or has its result callback called,
exactly when no frame or packet fitted a first request that had not been sent. -/
theorem sentFirst_iff {env : Env} {calls : List Call} {fconn : FrameConn} {host : Host} {s : State}
    (ran : run env calls (State.start fconn host) = some s) :
    SentFirst s.log ↔ ∀ event ∈ s.log, event.Timely := by
  obtain ⟨events, records⟩ := run_records ran
  have log : s.log = events := records.log
  rw [log]
  constructor
  · intro inOrder event isIn
    by_contra untimely
    obtain ⟨before, after, rfl⟩ := List.append_of_mem isIn
    obtain ⟨t, t', front, step, back⟩ := records.run.at_label
    have owes : t.OwesEndings := Trace.Run.invariant (fun _ t => t.OwesEndings)
      (fun _ isIn => by cases isIn) (fun _ _ _ _ owes step => owes.step step) front
    obtain ⟨early, isOwed, request, succeeds, unsent⟩ := step.untimely owes untimely
    have isLater := (Session.owed_prefix back rfl).subset isOwed
    have isEvent : early ∈ before ++ event :: after :=
      List.mem_append_right _ (List.mem_cons_of_mem _ isLater)
    exact not_sentFirst isEvent succeeds unsent inOrder
  · intro timely before event after split
    rw [split] at records timely
    obtain ⟨t, t', front, step, -⟩ := records.run.at_label
    have honest : Honest before t := by
      refine Trace.Run.invariant_of_forall Event.Timely Honest ?_ ?_ front ?_
      · constructor <;> exact fun _ isIn => by cases isIn
      · exact fun past t event t' honest timely step => honest.step timely step
      · exact fun event isIn => timely event (List.mem_append_left _ isIn)
    cases step with
    | owed q event rest closing => exact honest.owed event List.mem_cons_self
    | _ => exact .of_neutral rfl fun call packet isCall => by cases isCall

/-- A request that is sent, and then acknowledged. -/
theorem sentFirst_iff_power_off :
    ∃ s, run Env.idle [.user powerOff, .process ⟨0, 0⟩ true true]
        (State.start .fresh (.listing [.data [0x3e, 1, 1, 0, 0, 0, 0, 2, 0x3c]] [.wrote 100])) =
        some s ∧ (SentFirst s.log ↔ ∀ event ∈ s.log, event.Timely) := by
  obtain ⟨s, ran⟩ := Option.isSome_iff_exists.mp (show (run Env.idle
    [.user powerOff, .process ⟨0, 0⟩ true true] (State.start .fresh
      (.listing [.data [0x3e, 1, 1, 0, 0, 0, 0, 2, 0x3c]] [.wrote 100]))).isSome = true
      by decide +kernel)
  exact ⟨s, ran, sentFirst_iff ran⟩

/-- An ACK that arrives before the request could be written completes it. -/
theorem not_sentFirst_early_ack :
    ∃ s, run Env.idle [.user powerOff, .process ⟨0, 0⟩ true false]
        (State.start .fresh (.listing [.data [0x3e, 1, 1, 0, 0, 0, 0, 2, 0x3c]] [])) = some s ∧
      ¬ SentFirst s.log := by
  obtain ⟨s, ran, early⟩ := (Option.any_eq_true _ _).mp (show (run Env.idle
    [.user powerOff, .process ⟨0, 0⟩ true false] (State.start .fresh
      (.listing [.data [0x3e, 1, 1, 0, 0, 0, 0, 2, 0x3c]] []))).any
      (fun s => s.log.any fun event => event.succeeds.any fun request => request.attempts = 0) = true
      by decide +kernel)
  obtain ⟨event, isIn, isEarly⟩ := List.any_eq_true.mp early
  obtain ⟨request, succeeds, unsent⟩ := (Option.any_eq_true _ _).mp isEarly
  exact ⟨s, ran, not_sentFirst isIn succeeds (of_decide_eq_true unsent)⟩

end Libmdr
