import Libmdr.PacketConn.Alternation
import Libmdr.PacketConn.Retransmission

/-!
# Requests in turn

Only the first request of the queue is ever written, and it leaves the queue before the next one
is. So whatever arrives, whatever becomes of the writes and whatever the clock shows, the frames
of requests go out in the order in which the requests were accepted, the copies of one next to
each other, no more than three written whole, all the same, and with the payload of the frame that
was accepted.
-/

namespace Libmdr
set_option autoImplicit false

/-- What of a request does not change while it waits: its handle, and its frame but for the
sequence id and the checksum. -/
def Request.content (request : Request) : Handle × UInt8 × UInt32 × List UInt8 :=
  (request.handle, request.frame.dataType, request.frame.payloadLength, request.frame.payload)

theorem Frame.payload_setChecksum (f : Frame) : f.setChecksum.payload = f.payload := by
  rw [payload, setChecksum_payloadLength]
  exact List.take_set_of_le (Nat.le_refl _)

theorem Request.content_assign (request : Request) (sequenceId : UInt8) :
    (request.assign sequenceId).content = request.content := by
  have payload := Frame.payload_setChecksum { request.frame with sequenceId }
  unfold Request.content
  exact congrArg (fun payload => (request.handle, request.frame.dataType,
    request.frame.payloadLength, payload)) payload

theorem Request.handle_of_content {a b : Request} (same : a.content = b.content) :
    a.handle = b.handle := congrArg Prod.fst same

/-- Of two frames that are written one after the other, the second belongs to a later request, or
is a copy of the first. -/
def Request.Before (x y : Request) : Prop :=
  x.handle < y.handle ∨ x.handle = y.handle ∧ x.frame = y.frame

theorem Request.Before.le {x y : Request} (before : x.Before y) : x.handle ≤ y.handle :=
  before.elim Nat.le_of_lt fun same => Nat.le_of_eq same.1

/-- A request that is put in the queue comes last, with its content. -/
theorem RequestQueue.requests_enqueue (q : RequestQueue) (request : Request) :
    ∃ new, (q.enqueue request).requests = q.requests ++ [new] ∧ new.content = request.content ∧
      new.attempts = request.attempts := by
  unfold enqueue
  split
  · rename_i empty
    rw [empty]
    exact ⟨request.assign q.nextSequenceId, rfl, request.content_assign _, rfl⟩
  · exact ⟨request, rfl, rfl, rfl⟩

theorem transmissions_eq_nil {events : List Event} {handle : Handle}
    (other : ∀ x ∈ writtenIn true events, x.handle ≠ handle) : transmissions events handle = [] := by
  rw [transmissions, List.filterMap_eq_nil_iff]
  intro event isIn
  cases event with
  | wrote request result now =>
    have isWritten : request ∈ writtenIn true events :=
      List.mem_filterMap.mpr ⟨_, isIn, if_pos (.inr rfl)⟩
    exact if_neg fun same => other request isWritten same.1
  | _ => rfl

/-- What is written is what was accepted, and stands before all that waits. -/
structure InTurn (past : List Event) (q : RequestQueue) : Prop where
  waiting : ∀ r ∈ q.requests, ∃ a ∈ acceptedIn past, a.content = r.content
  increasing : q.requests.Pairwise fun a b => a.handle < b.handle
  written : ∀ x ∈ writtenIn true past, ∃ a ∈ acceptedIn past, a.content = x.content
  inTurn : (writtenIn true past).Pairwise Request.Before
  behind : ∀ x ∈ writtenIn true past, ∀ r ∈ q.requests, x.Before r
  counted : ∀ r ∈ q.requests, (transmissions past r.handle).length = r.attempts
  few : ∀ r ∈ q.requests, r.attempts ≤ packetMaxTries
  most : ∀ handle, (transmissions past handle).length ≤ packetMaxTries

namespace InTurn

variable {past : List Event} {q q' : RequestQueue} {event : Event} {head : Request}
  {rest : List Request}

/-- An event that neither accepts nor writes, and takes no request out of its turn. -/
theorem idle (now : InTurn past q) (accepts : acceptedIn [event] = [])
    (writes : writtenIn true [event] = []) (transmits : ∀ handle, transmissions [event] handle = [])
    (kept : (q'.requests.map fun r => (r.content, r.attempts)).Sublist
      (q.requests.map fun r => (r.content, r.attempts)))
    (behind : ∀ x ∈ writtenIn true past, ∀ r ∈ q'.requests, x.Before r) :
    InTurn (past ++ [event]) q' := by
  have old : ∀ r ∈ q'.requests, ∃ r₀ ∈ q.requests, r₀.content = r.content ∧
      r₀.attempts = r.attempts := by
    intro r isIn
    obtain ⟨r₀, isOld, same⟩ := List.mem_map.mp (kept.subset (List.mem_map_of_mem isIn))
    exact ⟨r₀, isOld, Prod.mk.inj same⟩
  have accepted : acceptedIn (past ++ [event]) = acceptedIn past := acceptedIn_append_of_nil accepts
  have written : writtenIn true (past ++ [event]) = writtenIn true past := by
    rw [writtenIn_append, writes, List.append_nil]
  have transmitted (handle : Handle) :
      transmissions (past ++ [event]) handle = transmissions past handle :=
    transmissions_append_of_nil (transmits handle)
  constructor
  · intro r isIn
    obtain ⟨r₀, isOld, same, -⟩ := old r isIn
    obtain ⟨a, isAccepted, isSame⟩ := now.waiting r₀ isOld
    exact ⟨a, by rwa [accepted], isSame.trans same⟩
  · have handles := kept.map fun key : (Handle × UInt8 × UInt32 × List UInt8) × Nat => key.1.1
    rw [List.map_map, List.map_map] at handles
    exact List.pairwise_map.mp ((List.pairwise_map.mpr now.increasing).sublist handles)
  · rw [accepted, written]
    exact now.written
  · rw [written]
    exact now.inTurn
  · rw [written]
    exact behind
  · intro r isIn
    obtain ⟨r₀, isOld, same, attempts⟩ := old r isIn
    rw [transmitted, ← Request.handle_of_content same, now.counted r₀ isOld, attempts]
  · intro r isIn
    obtain ⟨r₀, isOld, -, attempts⟩ := old r isIn
    rw [← attempts]
    exact now.few r₀ isOld
  · intro handle
    rw [transmitted]
    exact now.most handle

/-- An event that leaves the queue as it is. -/
theorem same (now : InTurn past q) (accepts : acceptedIn [event] = [])
    (writes : writtenIn true [event] = [])
    (transmits : ∀ handle, transmissions [event] handle = []) : InTurn (past ++ [event]) q :=
  now.idle accepts writes transmits (.refl _) now.behind

/-- What is written stands strictly before the requests behind the first one. -/
theorem lt_of_tail (now : InTurn past q) (first : q.requests = head :: rest) {x r : Request}
    (isWritten : x ∈ writtenIn true past) (isRest : r ∈ rest) : x.handle < r.handle := by
  have increasing := now.increasing
  rw [first] at increasing
  have before := (now.behind x isWritten head (RequestQueue.head_mem first)).le
  exact Nat.lt_of_le_of_lt before ((List.pairwise_cons.mp increasing).1 r isRest)

/-- An event that takes the first request out of the queue. -/
theorem advance (now : InTurn past q) (first : q.requests = head :: rest)
    (kept : q'.requests.map (fun r => (r.content, r.attempts)) =
      (q.requests.map fun r => (r.content, r.attempts)).tail)
    (accepts : acceptedIn [event] = []) (writes : writtenIn true [event] = [])
    (transmits : ∀ handle, transmissions [event] handle = []) : InTurn (past ++ [event]) q' := by
  refine now.idle accepts writes transmits (by rw [kept]; exact List.tail_sublist _) ?_
  intro x isWritten r isIn
  have isRest := List.mem_map_of_mem (f := fun r => (r.content, r.attempts)) isIn
  rw [kept, first, List.map_cons, List.tail_cons] at isRest
  obtain ⟨r₀, isOld, same⟩ := List.mem_map.mp isRest
  have strictly := now.lt_of_tail first isWritten isOld
  rw [Request.handle_of_content (Prod.mk.inj same).1] at strictly
  exact .inl strictly

/-- A new request comes behind all others. -/
theorem accept (now : InTurn past q) {request : Request} (unsent : request.attempts = 0)
    (later : ∀ a ∈ acceptedIn past, a.handle < request.handle) :
    InTurn (past ++ [.accepted request]) (q.enqueue request) := by
  obtain ⟨new, requests, sameContent, sameAttempts⟩ := q.requests_enqueue request
  have sameHandle := Request.handle_of_content sameContent
  have accepted : acceptedIn (past ++ [.accepted request]) = acceptedIn past ++ [request] :=
    acceptedIn_append _ _
  have written : writtenIn true (past ++ [.accepted request]) = writtenIn true past := by
    rw [writtenIn_append]
    exact List.append_nil _
  have transmitted (handle : Handle) :
      transmissions (past ++ [.accepted request]) handle = transmissions past handle :=
    transmissions_append_of_nil rfl
  have still {content : Handle × UInt8 × UInt32 × List UInt8}
      (was : ∃ a ∈ acceptedIn past, a.content = content) :
      ∃ a ∈ acceptedIn (past ++ [.accepted request]), a.content = content := by
    obtain ⟨a, isIn, same⟩ := was
    rw [accepted]
    exact ⟨a, List.mem_append_left _ isIn, same⟩
  have newest : ∀ r : Request, (∃ a ∈ acceptedIn past, a.content = r.content) →
      r.handle < new.handle := by
    rintro r ⟨a, isAccepted, same⟩
    rw [← Request.handle_of_content same, sameHandle]
    exact later a isAccepted
  have isNew {p : Request → Prop} (olds : ∀ r ∈ q.requests, p r) (last : p new) :
      ∀ r ∈ (q.enqueue request).requests, p r := by
    intro r isIn
    rw [requests] at isIn
    rcases List.mem_append.mp isIn with isOld | isLast
    · exact olds r isOld
    · rw [List.mem_singleton.mp isLast]
      exact last
  constructor
  · refine isNew (fun r isOld => still (now.waiting r isOld)) ?_
    rw [accepted]
    exact ⟨request, List.mem_append_right _ (List.mem_singleton.mpr rfl), sameContent.symm⟩
  · rw [requests]
    refine List.pairwise_append.mpr ⟨now.increasing, List.pairwise_singleton _ _, ?_⟩
    intro r isOld r' isLast
    rw [List.mem_singleton.mp isLast]
    exact newest r (now.waiting r isOld)
  · rw [written]
    exact fun x isIn => still (now.written x isIn)
  · rw [written]
    exact now.inTurn
  · rw [written]
    exact fun x isIn => isNew (now.behind x isIn) (.inl (newest x (now.written x isIn)))
  · refine isNew (fun r isOld => by rw [transmitted, now.counted r isOld]) ?_
    have never : transmissions past new.handle = [] := transmissions_eq_nil fun x isIn =>
      Nat.ne_of_lt (newest x (now.written x isIn))
    rw [transmitted, never, sameAttempts, unsent]
    rfl
  · refine isNew now.few ?_
    rw [sameAttempts, unsent]
    exact Nat.zero_le _
  · intro handle
    rw [transmitted]
    exact now.most handle

/-- The first request is written, and counts an attempt when that succeeds. -/
theorem write (now : InTurn past q) (first : q.requests = head :: rest) (result : Int)
    (reading : Timespec) (left : head.attempts < packetMaxTries) :
    InTurn (past ++ [.wrote head result reading])
      (if result < 0 then q else q.mapHead (Request.sent reading)) := by
  have isHead := RequestQueue.head_mem first
  have increasing := now.increasing
  rw [first] at increasing
  have later := (List.pairwise_cons.mp increasing).1
  have accepted : acceptedIn (past ++ [.wrote head result reading]) = acceptedIn past :=
    acceptedIn_append_of_nil rfl
  have written : writtenIn true (past ++ [.wrote head result reading]) =
      writtenIn true past ++ [head] := by
    rw [writtenIn_append]
    exact congrArg _ (List.filterMap_cons_some (if_pos (.inr rfl)))
  have others {handle : Handle} (other : head.handle ≠ handle) :
      transmissions (past ++ [.wrote head result reading]) handle = transmissions past handle :=
    transmissions_append_of_nil (transmissions_wrote_of_ne other)
  -- The first request behind the write: the same but for the number of attempts.
  obtain ⟨head', requests, content, frame, counted⟩ : ∃ head' : Request,
      (if result < 0 then q else q.mapHead (Request.sent reading)).requests = head' :: rest ∧
        head'.content = head.content ∧ head'.frame = head.frame ∧
        head'.attempts =
          (transmissions (past ++ [.wrote head result reading]) head.handle).length := by
    have before := now.counted head isHead
    split
    · rename_i failed
      have nothing : transmissions [.wrote head result reading] head.handle = [] :=
        List.filterMap_cons_none (if_neg fun both => absurd both.2 (Int.not_le.mpr failed))
      exact ⟨head, first, rfl, rfl, by rw [transmissions_append_of_nil nothing, before]⟩
    · rename_i success
      refine ⟨head.sent reading, RequestQueue.requests_mapHead first _, rfl, rfl, ?_⟩
      rw [transmissions_append, transmissions_wrote (Int.not_lt.mp success), List.length_append,
        before]
      rfl
  have handle := Request.handle_of_content content
  have few : head'.attempts ≤ packetMaxTries := by
    rw [counted, transmissions_append, List.length_append, now.counted head isHead]
    have one : (transmissions [.wrote head result reading] head.handle).length ≤ 1 :=
      List.length_filterMap_le _ _
    omega
  have members {p : Request → Prop} (isFirst : p head') (isRest : ∀ r ∈ rest, p r) :
      ∀ r ∈ (if result < 0 then q else q.mapHead (Request.sent reading)).requests, p r := by
    rw [requests]
    exact List.forall_mem_cons.mpr ⟨isFirst, isRest⟩
  have inRest {r : Request} (isRest : r ∈ rest) : r ∈ q.requests := RequestQueue.rest_mem first isRest
  constructor
  · rw [accepted]
    refine members ?_ fun r isRest => now.waiting r (inRest isRest)
    rw [content]
    exact now.waiting head isHead
  · rw [requests]
    refine List.pairwise_cons.mpr ⟨?_, (List.pairwise_cons.mp increasing).2⟩
    rw [handle]
    exact later
  · rw [accepted, written]
    intro x isIn
    rcases List.mem_append.mp isIn with isOld | isNew
    · exact now.written x isOld
    · rw [List.mem_singleton.mp isNew]
      exact now.waiting head isHead
  · rw [written]
    refine List.pairwise_append.mpr ⟨now.inTurn, List.pairwise_singleton _ _, ?_⟩
    intro x isOld y isNew
    rw [List.mem_singleton.mp isNew]
    exact now.behind x isOld head isHead
  · rw [written]
    intro x isIn
    rcases List.mem_append.mp isIn with isOld | isNew
    · refine members ?_ fun r isRest => now.behind x isOld r (inRest isRest)
      have before := now.behind x isOld head isHead
      rwa [Request.Before, ← handle, ← frame] at before
    · rw [List.mem_singleton.mp isNew]
      exact members (.inr ⟨handle.symm, frame.symm⟩) fun r isRest => .inl (later r isRest)
  · refine members (by rw [handle, counted]) fun r isRest => ?_
    rw [others (Nat.ne_of_lt (later r isRest))]
    exact now.counted r (inRest isRest)
  · exact members few fun r isRest => now.few r (inRest isRest)
  · intro h
    by_cases own : head.handle = h
    · rw [← own, ← counted]
      exact few
    · rw [others own]
      exact now.most h

end InTurn

/-! ## Runs -/

theorem Session.Step.inTurn {past : List Event} {t t' : Session} {event : Event}
    (step : Session.Step t event t') (owes : t.OwesEndings) (isOpen : t'.closing = false)
    (increasing : (acceptedIn (past ++ [event])).Pairwise fun a b => a.handle < b.handle)
    (now : InTurn past t.queue) : InTurn (past ++ [event]) t'.queue := by
  cases step with
  | owed q event rest closing =>
    have isEnding := owes event List.mem_cons_self
    cases event with
    | finished | called | acked => exact now.same rfl rfl fun _ => rfl
    | _ => cases isEnding
  | accepted q request closing unsent waiting =>
    obtain rfl : closing = false := isOpen
    refine now.accept unsent fun a isIn => ?_
    rw [acceptedIn_append] at increasing
    exact (List.pairwise_append.mp increasing).2.2 a isIn request (List.mem_singleton.mpr rfl)
  | wrote q head rest result reading first due =>
    exact now.write first result reading (Request.attempts_lt_of_due due)
  | expired q head rest reading first sent late spent =>
    refine now.advance first ?_ rfl rfl fun _ => rfl
    rw [RequestQueue.map_advance fun r id => by rw [r.content_assign]; rfl]
    cases head.acked <;> rfl
  | ackedOnly q head rest frame reading first =>
    refine now.advance first ?_ rfl rfl fun _ => rfl
    exact RequestQueue.map_advance (fun r id => by rw [r.content_assign]; rfl) q
  | ackedWaits q head rest frame reading first =>
    refine now.idle rfl rfl (fun _ => rfl) ?_ ?_
    · have kept := RequestQueue.map_mapHead (g := fun r => (r.content, r.attempts))
        (f := Request.ackedAt reading) (fun _ => rfl) q
      rw [kept]
    · intro x isWritten r isIn
      dsimp only at isIn
      rw [RequestQueue.requests_mapHead first] at isIn
      rcases List.mem_cons.mp isIn with rfl | isRest
      · exact now.behind x isWritten head (RequestQueue.head_mem first)
      · exact now.behind x isWritten r (RequestQueue.rest_mem first isRest)
  | ignored q frame reading other => exact now.same rfl rfl fun _ => rfl
  | replied q head rest packet first =>
    refine now.advance first ?_ rfl rfl fun _ => rfl
    exact RequestQueue.map_advance (fun r id => by rw [r.content_assign]; rfl) q
  | closing => cases isOpen
  | unexpected | wroteAck | notified => exact now.same rfl rfl fun _ => rfl

/-- Along a run of the session that starts with an empty record. -/
theorem inTurn_run {t u : Session} {events : List Event} (run : Trace.Run Session.Step t events u)
    (start : InTurn [] t.queue) (owes : t.OwesEndings) (isOpen : u.closing = false)
    (increasing : (acceptedIn events).Pairwise fun a b => a.handle < b.handle) :
    InTurn events u.queue := by
  have along : u.OwesEndings ∧ (u.closing = false →
      (acceptedIn events).Pairwise (fun a b => a.handle < b.handle) → InTurn events u.queue) := by
    refine Trace.Run.invariant (fun past t => t.OwesEndings ∧ (t.closing = false →
      (acceptedIn past).Pairwise (fun a b => a.handle < b.handle) → InTurn past t.queue))
      ⟨owes, fun _ _ => start⟩ ?_ run
    intro past t event t' now step
    refine ⟨now.1.step step, fun isOpen increasing => ?_⟩
    refine step.inTurn now.1 isOpen increasing (now.2 (step.was_open isOpen) ?_)
    rw [acceptedIn_append] at increasing
    exact (List.pairwise_append.mp increasing).1
  exact along.2 isOpen increasing

theorem inTurn_start (fconn : FrameConn) : InTurn [] (PacketConn.newFromFrameconn fconn).queue where
  waiting := fun _ isIn => by cases isIn
  increasing := .nil
  written := fun _ isIn => by cases isIn
  inTurn := .nil
  behind := fun _ isIn => by cases isIn
  counted := fun _ isIn => by cases isIn
  few := fun _ isIn => by cases isIn
  most := fun _ => Nat.zero_le _

theorem run_queue_inTurn {env : Env} {calls : List Call} {fconn : FrameConn} {host : Host}
    {s : State} (ran : run env calls (State.start fconn host) = some s) :
    InTurn s.log s.conn.queue := by
  obtain ⟨records, -⟩ := run_log ran
  have owes : ((State.start fconn host).session false).OwesEndings := fun _ isIn => by cases isIn
  exact inTurn_run records.run (inTurn_start fconn) owes rfl records.numbered.increasing

/-- **Requests are written in turn.** In every run, whatever arrives, whatever becomes of the
writes and whatever the clock shows: of two frames of requests that are written one after the
other, the second belongs to a request that was accepted later, or is an exact copy of the first;
no request is written whole more than three times; and each frame has the data type and the
payload of the one that was accepted. -/
theorem run_inTurn {env : Env} {calls : List Call} {fconn : FrameConn} {host : Host} {s : State}
    (ran : run env calls (State.start fconn host) = some s) :
    (writtenIn true s.log).Pairwise Request.Before ∧
      (∀ handle, (transmissions s.log handle).length ≤ packetMaxTries) ∧
      ∀ x ∈ writtenIn true s.log, ∃ a ∈ acceptedIn s.log, a.content = x.content := by
  have inTurn := run_queue_inTurn ran
  exact ⟨inTurn.inTurn, inTurn.most, inTurn.written⟩

/-- Two requests: the first one is written twice, and its ACK lets the second one through. -/
theorem run_inTurn_power_off_twice :
    ∃ s, run Env.idle [.user powerOff, .user powerOff, .process ⟨0, 0⟩ false true,
        .process ⟨2, 0⟩ true true, .process ⟨2, 0⟩ false true] (State.start .fresh (.listing
          [.data [0x3e, 1, 1, 0, 0, 0, 0, 2, 0x3c]] [.wrote 100, .wrote 100, .wrote 100]))
        = some s ∧
      (writtenIn true s.log).map Request.handle = [0, 0, 1] ∧
      (writtenIn true s.log).Pairwise Request.Before ∧
      (∀ handle, (transmissions s.log handle).length ≤ packetMaxTries) ∧
      ∀ x ∈ writtenIn true s.log, ∃ a ∈ acceptedIn s.log, a.content = x.content := by
  obtain ⟨s, ran, handles⟩ := (Option.any_eq_true _ _).mp (show (run Env.idle
    [.user powerOff, .user powerOff, .process ⟨0, 0⟩ false true, .process ⟨2, 0⟩ true true,
      .process ⟨2, 0⟩ false true] (State.start .fresh (.listing
      [.data [0x3e, 1, 1, 0, 0, 0, 0, 2, 0x3c]] [.wrote 100, .wrote 100, .wrote 100]))).any
    (fun s => decide ((writtenIn true s.log).map Request.handle = [0, 0, 1])) = true
    by decide +kernel)
  exact ⟨s, ran, of_decide_eq_true handles, run_inTurn ran⟩

end Libmdr
