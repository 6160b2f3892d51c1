import Libmdr.PacketConn.SequenceIds
import Mathlib.Data.List.Chain

/-!
# Alternating sequence ids

The sequence id of a request is chosen when it becomes the first one, so the ids
alternate on the wire as long as every request that becomes the first one is sent
before it leaves the queue, or leaves with the roll-back of `MDR_E_NO_ACK`.
-/

namespace Libmdr
set_option autoImplicit false

/-! ## What is sent -/

/-- The requests whose frame was handed to `mdr_frameconn_write_frame`, one for
each call that returned 0. With `blocked` also one for each call that returned -1:
a blocked write leaves the frame, or its end, in the write buffer. -/
def writtenIn (blocked : Bool) (events : List Event) : List Request :=
  events.filterMap fun
    | .wrote request result _ => if 0 ≤ result ∨ blocked = true then some request else none
    | _ => none

@[simp] theorem writtenIn_append (blocked : Bool) (xs ys : List Event) :
    writtenIn blocked (xs ++ ys) = writtenIn blocked xs ++ writtenIn blocked ys :=
  List.filterMap_append

/-- A request ended. -/
def Ended (done : List (Request × Outcome)) (handle : Handle) : Prop :=
  ∃ d ∈ done, d.1.handle = handle

/-- A request ended with `MDR_E_NO_ACK`. -/
def NoAckEnded (done : List (Request × Outcome)) (handle : Handle) : Prop :=
  ∃ d ∈ done, d.1.handle = handle ∧ d.2 = .noAck

instance (done : List (Request × Outcome)) (handle : Handle) :
    Decidable (NoAckEnded done handle) :=
  inferInstanceAs (Decidable (∃ d ∈ done, d.1.handle = handle ∧ d.2 = .noAck))

/-- The sequence id of the second of two requests that are sent one after the other. -/
def Follows (done : List (Request × Outcome)) (x y : Request) : Prop :=
  x.handle ≠ y.handle → ¬ NoAckEnded done x.handle →
    (y.frame.sequenceId.toNat : Int) = 1 - x.frame.sequenceId.toNat

instance (done : List (Request × Outcome)) : DecidableRel (Follows done) := fun x y =>
  inferInstanceAs (Decidable (x.handle ≠ y.handle → ¬ NoAckEnded done x.handle →
    (y.frame.sequenceId.toNat : Int) = 1 - x.frame.sequenceId.toNat))

/-- The alternating-bit discipline of what was written, with the requests that ended. -/
structure Alternates (written : List Request) (done : List (Request × Outcome)) : Prop where
  follows : written.IsChain (Follows done)
  constant : ∀ x ∈ written, ∀ y ∈ written, x.handle = y.handle →
    x.frame.sequenceId = y.frame.sequenceId

/-- A frame or packet that completes a first request that was never sent. -/
def Event.skips : Event → Bool
  | .received frame (some head) _ =>
    head.attempts = 0 && head.expectedReply.onlyAck && frame.dataType = frameDataTypeAck &&
      ackMatches frame head
  | .parsed packet (some head) =>
    head.attempts = 0 && replySpecifierMatches head.expectedReply packet
  | _ => false

/-! ## The invariant -/

/-- A request that was written is the first of the queue. -/
def RequestQueue.Heads (q : RequestQueue) (x : Request) : Prop :=
  ∃ head, q.requests.head? = some head ∧ head.handle = x.handle ∧
    head.frame.sequenceId = x.frame.sequenceId

theorem RequestQueue.Heads.same {q : RequestQueue} {x head : Request} (isFirst : q.Heads x)
    (isHead : q.requests.head? = some head) :
    head.handle = x.handle ∧ head.frame.sequenceId = x.frame.sequenceId := by
  obtain ⟨old, isOld, same⟩ := isFirst
  rw [isHead] at isOld
  cases isOld
  exact same

/-- `Alternates`, with what links the requests that were written to the queue. -/
structure Alternating (written : List Request) (done : List (Request × Outcome))
    (q : RequestQueue) : Prop extends Alternates written done where
  valid : q.Valid
  bits : ∀ x ∈ written, x.frame.sequenceId = 0 ∨ x.frame.sequenceId = 1
  known : ∀ x ∈ written, Ended done x.handle ∨ q.Heads x
  /-- A first request with attempts was the last one written. -/
  current : ∀ head, q.requests.head? = some head → head.attempts ≠ 0 →
    ∃ x, written.getLast? = some x ∧ q.Heads x
  /-- The last one written is still the first one, or the next one gets the other id. -/
  next : ∀ x, written.getLast? = some x →
    q.Heads x ∨ (¬ NoAckEnded done x.handle → q.headId = lnot x.frame.sequenceId)

theorem alternating_start (q : RequestQueue) (valid : q.Valid)
    (unsent : ∀ head, q.requests.head? = some head → head.attempts = 0) : Alternating [] [] q where
  follows := .nil
  constant := fun _ isIn => by cases isIn
  valid := valid
  bits := fun _ isIn => by cases isIn
  known := fun _ isIn => by cases isIn
  current := fun head isHead attempted => absurd (unsent head isHead) attempted
  next := fun _ none => by cases none

/-- The first request stays in its place. -/
theorem Alternating.keeps {written : List Request} {done : List (Request × Outcome)}
    {q q' : RequestQueue} (alternating : Alternating written done q) (valid : q'.Valid)
    (sameId : q'.headId = q.headId) (heads : ∀ x, q.Heads x → q'.Heads x)
    (attempts : ∀ head, q'.requests.head? = some head → head.attempts ≠ 0 →
      ∃ old, q.requests.head? = some old ∧ old.attempts ≠ 0) :
    Alternating written done q' where
  toAlternates := alternating.toAlternates
  valid := valid
  bits := alternating.bits
  known := fun x isIn => (alternating.known x isIn).imp_right (heads x)
  current := by
    intro head isHead attempted
    obtain ⟨old, isOld, wasAttempted⟩ := attempts head isHead attempted
    obtain ⟨x, isLast, isFirst⟩ := alternating.current old isOld wasAttempted
    exact ⟨x, isLast, heads x isFirst⟩
  next := by
    intro x isLast
    rw [sameId]
    exact (alternating.next x isLast).imp_left (heads x)

/-- The first request is written. -/
theorem Alternating.write {written : List Request} {done : List (Request × Outcome)}
    {q q' : RequestQueue} {head : Request} (alternating : Alternating written done q)
    (isHead : q.requests.head? = some head) (waits : ¬ Ended done head.handle) (valid : q'.Valid)
    (stays : q'.Heads head) : Alternating (written ++ [head]) done q' := by
  have sameId : q.headId = head.frame.sequenceId := by
    obtain ⟨rest, first⟩ := List.head?_eq_some_iff.mp isHead
    exact RequestQueue.headId_cons first
  have again {x : Request} (isIn : x ∈ written) (same : x.handle = head.handle) :
      x.frame.sequenceId = head.frame.sequenceId := by
    rcases alternating.known x isIn with ended | isFirst
    · rw [same] at ended
      exact absurd ended waits
    · exact (isFirst.same isHead).2.symm
  refine ⟨⟨?_, ?_⟩, valid, ?_, ?_, ?_, ?_⟩
  · refine List.isChain_append.mpr ⟨alternating.follows, List.isChain_singleton _, ?_⟩
    intro x isLast y isNew apart other
    cases isNew
    rcases alternating.next x isLast with isFirst | follows
    · exact absurd (isFirst.same isHead).1.symm apart
    · rw [← sameId, follows other]
      exact lnot_toNat (alternating.bits x (List.mem_of_getLast? isLast))
  · intro x isX y isY same
    rcases List.mem_append.mp isX with oldX | newX <;>
      rcases List.mem_append.mp isY with oldY | newY
    · exact alternating.constant x oldX y oldY same
    · rw [List.mem_singleton.mp newY] at same ⊢
      exact again oldX same
    · rw [List.mem_singleton.mp newX] at same ⊢
      exact (again oldY same.symm).symm
    · rw [List.mem_singleton.mp newX, List.mem_singleton.mp newY]
  · intro x isIn
    rcases List.mem_append.mp isIn with old | new
    · exact alternating.bits x old
    · rw [List.mem_singleton.mp new, ← sameId]
      exact alternating.valid.bit
  · intro x isIn
    rcases List.mem_append.mp isIn with old | new
    · refine (alternating.known x old).imp_right fun isFirst => ?_
      obtain ⟨head', isHead', handle, sequenceId⟩ := stays
      exact ⟨head', isHead', handle.trans (isFirst.same isHead).1, sequenceId.trans (isFirst.same isHead).2⟩
    · rw [List.mem_singleton.mp new]
      exact .inr stays
  · exact fun _ _ _ => ⟨head, by simp, stays⟩
  · intro x isLast
    rw [List.getLast?_concat] at isLast
    cases isLast
    exact .inl stays

/-- The first request was sent and leaves the queue. -/
theorem Alternating.finish {written : List Request} {done : List (Request × Outcome)}
    {q q' : RequestQueue} {head : Request} {outcome : Outcome}
    (alternating : Alternating written done q) (isHead : q.requests.head? = some head)
    (sent : head.attempts ≠ 0) (valid : q'.Valid)
    (unsent : ∀ next, q'.requests.head? = some next → next.attempts = 0)
    (flips : outcome ≠ .noAck → q'.headId = lnot head.frame.sequenceId) :
    Alternating written (done ++ [(head, outcome)]) q' := by
  refine ⟨⟨?_, alternating.constant⟩, valid, alternating.bits, ?_, ?_, ?_⟩
  · refine alternating.follows.imp fun x y follows apart other => follows apart ?_
    rintro ⟨d, isIn, ended⟩
    exact other ⟨d, List.mem_append_left _ isIn, ended⟩
  · intro x isIn
    left
    rcases alternating.known x isIn with ⟨d, wasIn, ended⟩ | isFirst
    · exact ⟨d, List.mem_append_left _ wasIn, ended⟩
    · exact ⟨(head, outcome), by simp, (isFirst.same isHead).1⟩
  · exact fun next isNext attempted => absurd (unsent next isNext) attempted
  · intro x isLast
    right
    intro other
    obtain ⟨y, isLast', isFirst⟩ := alternating.current head isHead sent
    rw [isLast] at isLast'
    cases isLast'
    rw [← (isFirst.same isHead).2]
    refine flips fun isNoAck => other ⟨(head, outcome), by simp, (isFirst.same isHead).1, isNoAck⟩

theorem RequestQueue.Heads.enqueue {q : RequestQueue} {x : Request} (isFirst : q.Heads x)
    (request : Request) : (q.enqueue request).Heads x := by
  obtain ⟨head, isHead, same⟩ := isFirst
  obtain ⟨rest, first⟩ := List.head?_eq_some_iff.mp isHead
  refine ⟨head, ?_, same⟩
  rw [enqueue_of_cons first, first]
  rfl

theorem RequestQueue.Heads.mapHead {q : RequestQueue} {x : Request} (isFirst : q.Heads x)
    {f : Request → Request}
    (same : ∀ request, (f request).handle = request.handle ∧ (f request).frame = request.frame) :
    (q.mapHead f).Heads x := by
  obtain ⟨head, isHead, handle, sequenceId⟩ := isFirst
  obtain ⟨rest, first⟩ := List.head?_eq_some_iff.mp isHead
  refine ⟨f head, ?_, (same head).1.trans handle, ?_⟩
  · rw [RequestQueue.requests_mapHead first]
    rfl
  · rw [(same head).2]
    exact sequenceId

/-- A request of the queue has not ended: handles are given out once. -/
theorem Accounted.not_ended {past : List Event} {t : Session} (accounted : Accounted past t)
    (distinct : ((acceptedIn (past ++ t.owed)).map Request.handle).Nodup) {r : Request}
    (isIn : r ∈ t.queue.requests) : ¬ Ended (finishedIn (past ++ t.owed)) r.handle := by
  have firsts := congrArg (List.map Prod.fst) accounted.order
  have handles : (acceptedIn (past ++ t.owed)).map Request.handle =
      (finishedIn (past ++ t.owed)).map (fun done => done.1.handle) ++
        t.queue.requests.map Request.handle := by
    simpa [RequestQueue.keys, Request.key, Function.comp_def] using firsts
  rw [handles, List.nodup_append] at distinct
  rintro ⟨done, ended, same⟩
  exact distinct.2.2 _ (List.mem_map.mpr ⟨done, ended, rfl⟩) _ (List.mem_map_of_mem isIn) same

/-! ## Runs -/

/-- The invariant of a record and what is owed. -/
def Session.Alternating (blocked : Bool) (past : List Event) (t : Session) : Prop :=
  Libmdr.Alternating (writtenIn blocked past) (finishedIn (past ++ t.owed)) t.queue

theorem Session.Alternating.finish {blocked : Bool} {past : List Event} {q q' : RequestQueue}
    {head : Request} {rest : List Request} {event : Event} {outcome : Outcome}
    (alternating : Session.Alternating blocked past ⟨q, [], false⟩)
    (first : q.requests = head :: rest) (sent : head.attempts ≠ 0)
    (advanced : q' = (if outcome = .noAck then q.flip else q).advance)
    (silent : writtenIn blocked [event] = []) (finishes : finishedIn [event] = []) :
    Session.Alternating blocked (past ++ [event]) ⟨q', head.ending outcome, false⟩ := by
  unfold Session.Alternating at alternating ⊢
  dsimp only at alternating ⊢
  rw [List.append_nil] at alternating
  have valid := alternating.valid
  have fresh := valid.fresh
  have isHead : q.requests.head? = some head := by rw [first]; rfl
  have written : writtenIn blocked (past ++ [event]) = writtenIn blocked past := by
    rw [writtenIn_append, silent, List.append_nil]
  have done : finishedIn (past ++ [event] ++ head.ending outcome) =
      finishedIn past ++ [(head, outcome)] := by
    rw [finishedIn_append, finishedIn_append, finishes, finishedIn_ending, List.append_nil]
  rw [written, done, advanced]
  by_cases isNoAck : outcome = .noAck
  · rw [if_pos isNoAck]
    have freshFlip : ∀ request ∈ q.flip.requests.tail,
        request.attempts = 0 ∧ request.acked = false := fresh
    exact alternating.finish isHead sent (valid.flip_advance first)
      (fun next isNext => (RequestQueue.advance_fresh freshFlip isNext).1)
      fun other => absurd isNoAck other
  · rw [if_neg isNoAck]
    refine alternating.finish isHead sent (valid.advance first)
      (fun next isNext => (RequestQueue.advance_fresh fresh isNext).1) fun _ => ?_
    rw [valid.headId_advance first, RequestQueue.headId_cons first]

/-- An event that writes nothing and leaves the first request in its place. -/
theorem Session.Alternating.keeps {blocked : Bool} {past : List Event} {q q' : RequestQueue}
    {owed owed' : List Event} {event : Event}
    (alternating : Session.Alternating blocked past ⟨q, owed, false⟩)
    (silent : writtenIn blocked [event] = [])
    (finishes : finishedIn ([event] ++ owed') = finishedIn owed) (valid : q'.Valid)
    (sameId : q'.headId = q.headId) (heads : ∀ x, q.Heads x → q'.Heads x)
    (attempts : ∀ head, q'.requests.head? = some head → head.attempts ≠ 0 →
      ∃ old, q.requests.head? = some old ∧ old.attempts ≠ 0) :
    Session.Alternating blocked (past ++ [event]) ⟨q', owed', false⟩ := by
  unfold Session.Alternating at alternating ⊢
  have done : finishedIn (past ++ [event] ++ owed') = finishedIn (past ++ owed) := by
    rw [List.append_assoc, finishedIn_append, finishes, finishedIn_append]
  rw [writtenIn_append, silent, List.append_nil, done]
  exact alternating.keeps valid sameId heads attempts

theorem Session.Alternating.step {blocked : Bool} {past : List Event} {t t' : Session}
    {event : Event} (alternating : Session.Alternating blocked past t)
    (accounted : Accounted past t) (orderly : event.skips = false)
    (distinct : ((acceptedIn (past ++ t.owed)).map Request.handle).Nodup)
    (owes : t.OwesEndings) (isOpen : t'.closing = false) (step : Session.Step t event t') :
    Session.Alternating blocked (past ++ [event]) t' := by
  have valid := step.valid isOpen alternating.valid
  cases step with
  | owed q event rest closing =>
    obtain rfl : closing = false := isOpen
    have silent : writtenIn blocked [event] = [] := by
      have isEnding := owes event List.mem_cons_self
      cases event <;> first | rfl | cases isEnding
    exact alternating.keeps silent rfl valid rfl (fun _ isFirst => isFirst)
      fun head isHead attempted => ⟨head, isHead, attempted⟩
  | accepted q request closing unsent waiting =>
    obtain rfl : closing = false := isOpen
    refine alternating.keeps rfl rfl valid (q.headId_enqueue request)
      (fun _ isFirst => isFirst.enqueue request) ?_
    intro head isHead attempted
    change (q.enqueue request).requests.head? = some head at isHead
    by_cases empty : q.requests = []
    · rw [RequestQueue.enqueue, if_pos empty] at isHead
      cases isHead
      exact absurd unsent attempted
    · rw [RequestQueue.enqueue, if_neg empty, List.head?_append_of_ne_nil _ empty] at isHead
      exact ⟨head, isHead, attempted⟩
  | wrote q head rest result now first due =>
    have isHead : q.requests.head? = some head := by rw [first]; rfl
    have waits := accounted.not_ended distinct (RequestQueue.head_mem first)
    have here : q.Heads head := ⟨head, isHead, rfl, rfl⟩
    have stays : (if result < 0 then q else q.mapHead (Request.sent now)).Heads head := by
      split
      · exact here
      · exact here.mapHead fun _ => ⟨rfl, rfl⟩
    unfold Session.Alternating at alternating ⊢
    have done : finishedIn (past ++ [.wrote head result now] ++ []) = finishedIn (past ++ []) := by
      rw [List.append_nil, List.append_nil, finishedIn_append]
      exact List.append_nil _
    rw [done, writtenIn_append]
    by_cases counts : 0 ≤ result ∨ blocked = true
    · have new : writtenIn blocked [.wrote head result now] = [head] := by
        simp [writtenIn, counts]
      rw [new]
      exact alternating.write isHead waits valid stays
    · have none : writtenIn blocked [.wrote head result now] = [] := by
        simp only [writtenIn, List.filterMap_cons, if_neg counts, List.filterMap_nil]
      have failed : result < 0 := Int.not_le.mp (not_or.mp counts).1
      rw [none, List.append_nil]
      rw [if_pos failed]
      exact alternating
  | expired q head rest now first sent late spent =>
    refine alternating.finish first sent ?_ rfl rfl
    cases head.acked <;> rfl
  | ackedOnly q head rest frame now first isAck isMatch only =>
    refine alternating.finish first ?_ rfl rfl rfl
    intro unsent
    simp [Event.skips, unsent, only, isAck, isMatch] at orderly
  | ackedWaits q head rest frame now first isAck isMatch waits =>
    refine alternating.keeps rfl rfl valid (q.headId_mapHead fun _ => rfl)
      (fun _ isFirst => isFirst.mapHead fun _ => ⟨rfl, rfl⟩) ?_
    intro head' isHead attempted
    rw [RequestQueue.requests_mapHead first] at isHead
    cases isHead
    exact ⟨head, by rw [first]; rfl, attempted⟩
  | replied q head rest packet first isMatch =>
    refine alternating.finish first ?_ rfl rfl rfl
    intro unsent
    simp [Event.skips, unsent, isMatch] at orderly
  | closing => cases isOpen
  | ignored | unexpected | wroteAck | notified =>
    exact alternating.keeps rfl rfl valid rfl (fun _ isFirst => isFirst)
      fun head isHead attempted => ⟨head, isHead, attempted⟩

/-- A step adds to the requests that are recorded or owed. -/
theorem Session.Step.accepts {past : List Event} {t t' : Session} {event : Event}
    (step : Session.Step t event t') :
    acceptedIn (past ++ t.owed) <+: acceptedIn (past ++ [event] ++ t'.owed) := by
  rcases step.owed_or with next | nothing
  · rw [next, List.append_assoc]
    exact List.prefix_rfl
  · rw [nothing, List.append_nil, List.append_assoc, acceptedIn_append]
    exact List.prefix_append _ _

/-- **The alternating-bit discipline.** In every run in which no frame completes a
request that was never sent, a request that is sent after one that did not end
with `MDR_E_NO_ACK` carries the other sequence id, and a request is always sent
with the same one; also when the blocked writes count as sending. -/
theorem alternates_of_orderly {env : Env} {calls : List Call} {fconn : FrameConn} {host : Host}
    {s : State} (ran : run env calls (State.start fconn host) = some s)
    (orderly : ∀ event ∈ s.log, event.skips = false) (blocked : Bool) :
    Alternates (writtenIn blocked s.log) (finishedIn s.log) := by
  obtain ⟨events, records⟩ := run_records ran
  have log : s.log = events := records.log
  rw [log] at orderly ⊢
  have whole := Trace.Run.invariant_of_forall (fun event => event.skips = false)
    (fun past t => Accounted past t ∧ t.OwesEndings ∧ (t.closing = false →
      ((acceptedIn (past ++ t.owed)).map Request.handle).Nodup → t.Alternating blocked past))
    ?_ ?_ records.run orderly
  · obtain ⟨-, -, alternating⟩ := whole
    have now := alternating rfl ?_
    · rw [Session.Alternating, State.session, List.append_nil] at now
      exact now.toAlternates
    · rw [State.session, List.append_nil, List.Nodup, List.pairwise_map]
      exact records.numbered.increasing.imp fun less => Nat.ne_of_lt less
  · refine ⟨accounted_start fconn host, (fun _ isIn => by cases isIn), fun _ _ => ?_⟩
    exact alternating_start _ (valid_start fconn) fun _ none => by cases none
  · rintro past t event t' ⟨accounted, owes, alternating⟩ noSkip step
    refine ⟨accounted.step step, owes.step step, fun isOpen distinct => ?_⟩
    have earlier := distinct.sublist (step.accepts.sublist.map Request.handle)
    exact (alternating (step.was_open isOpen) earlier).step accounted noSkip earlier owes isOpen
      step

/-- Two requests that are sent one after the other. -/
theorem alternates_power_off_twice :
    ∃ s, run Env.idle [.user powerOff, .user powerOff, .process ⟨0, 0⟩ true true,
        .process ⟨0, 0⟩ false true] (State.start .fresh (.listing
          [.data [0x3e, 1, 1, 0, 0, 0, 0, 2, 0x3c]] [.wrote 100, .wrote 100])) = some s ∧
      (writtenIn false s.log).length = 2 ∧
      Alternates (writtenIn false s.log) (finishedIn s.log) := by
  obtain ⟨s, ran, both⟩ := (Option.any_eq_true _ _).mp (show (run Env.idle
    [.user powerOff, .user powerOff, .process ⟨0, 0⟩ true true, .process ⟨0, 0⟩ false true]
    (State.start .fresh (.listing [.data [0x3e, 1, 1, 0, 0, 0, 0, 2, 0x3c]]
      [.wrote 100, .wrote 100]))).any
      (fun s => decide ((writtenIn false s.log).length = 2) && s.log.all fun event => !event.skips) =
        true by decide +kernel)
  obtain ⟨written, orderly⟩ := Bool.and_eq_true_iff.mp both
  refine ⟨s, ran, of_decide_eq_true written, alternates_of_orderly ran (fun event isIn => ?_) false⟩
  simpa using List.all_eq_true.mp orderly event isIn

/-- The ACK of an earlier request comes again and completes the second of three
requests before it is sent; the third one repeats the sequence id of the first. -/
theorem not_alternates_early_ack :
    ∃ s, run Env.idle [.user powerOff, .user powerOff, .user powerOff, .process ⟨0, 0⟩ true true,
        .process ⟨0, 0⟩ true false, .process ⟨0, 0⟩ false true] (State.start .fresh (.listing
          [.data [0x3e, 1, 1, 0, 0, 0, 0, 2, 0x3c], .data [0x3e, 1, 0, 0, 0, 0, 0, 1, 0x3c]]
          [.wrote 100, .wrote 100])) = some s ∧
      ¬ Alternates (writtenIn false s.log) (finishedIn s.log) := by
  obtain ⟨s, ran, broken⟩ := (Option.any_eq_true _ _).mp (show (run Env.idle
    [.user powerOff, .user powerOff, .user powerOff, .process ⟨0, 0⟩ true true,
      .process ⟨0, 0⟩ true false, .process ⟨0, 0⟩ false true] (State.start .fresh (.listing
        [.data [0x3e, 1, 1, 0, 0, 0, 0, 2, 0x3c], .data [0x3e, 1, 0, 0, 0, 0, 0, 1, 0x3c]]
        [.wrote 100, .wrote 100]))).any
      (fun s => !decide ((writtenIn false s.log).IsChain (Follows (finishedIn s.log)))) = true
      by decide +kernel)
  refine ⟨s, ran, fun alternates => ?_⟩
  rw [decide_eq_true alternates.follows] at broken
  cases broken

end Libmdr
