import Libmdr.PacketConn.Clock
import Libmdr.PacketConn.SequenceIds

/-!
# When a request is sent again

One counter and one timeout serve both timers of the first request, the one for
its ACK and the one for its reply. The invariant says what they hold in terms of
what is recorded: the counter is the number of transmissions, and the timeout is
one second after the last of them or, behind an accepted ACK, no less than one
second after that ACK.
-/

namespace Libmdr
set_option autoImplicit false

/-- The readings of the transmissions of a request: the calls of
`mdr_frameconn_write_frame` on its frame that returned 0. -/
def transmissions (log : List Event) (handle : Handle) : List Timespec :=
  log.filterMap fun
    | .wrote request result now => if request.handle = handle ∧ 0 ≤ result then some now else none
    | _ => none

/-- The readings of the calls in which an ACK for a request was accepted. -/
def acceptedAcks (log : List Event) (handle : Handle) : List Timespec :=
  log.filterMap fun
    | .received frame (some head) now =>
      if head.handle = handle ∧ frame.dataType = frameDataTypeAck ∧ ackMatches frame head = true then
        some now
      else none
    | _ => none

theorem transmissions_append (xs ys : List Event) (handle : Handle) :
    transmissions (xs ++ ys) handle = transmissions xs handle ++ transmissions ys handle :=
  List.filterMap_append

theorem acceptedAcks_append (xs ys : List Event) (handle : Handle) :
    acceptedAcks (xs ++ ys) handle = acceptedAcks xs handle ++ acceptedAcks ys handle :=
  List.filterMap_append

/-! What events add that record nothing of the kind. -/

theorem transmissions_append_of_nil {xs ys : List Event} {handle : Handle}
    (none : transmissions ys handle = []) :
    transmissions (xs ++ ys) handle = transmissions xs handle := by
  rw [transmissions_append, none, List.append_nil]

theorem acceptedAcks_append_of_nil {xs ys : List Event} {handle : Handle}
    (none : acceptedAcks ys handle = []) :
    acceptedAcks (xs ++ ys) handle = acceptedAcks xs handle := by
  rw [acceptedAcks_append, none, List.append_nil]

theorem acceptedIn_append_of_nil {xs ys : List Event} (none : acceptedIn ys = []) :
    acceptedIn (xs ++ ys) = acceptedIn xs := by
  rw [acceptedIn_append, none, List.append_nil]

theorem transmissions_subset {log : List Event} {handle : Handle} :
    ∀ t ∈ transmissions log handle, t ∈ readingsIn log := by
  intro t isIn
  obtain ⟨event, isEvent, same⟩ := List.mem_filterMap.mp isIn
  cases event with
  | wrote request result now =>
    obtain ⟨-, same⟩ := Option.ite_none_right_eq_some.mp same
    cases same
    exact mem_readingsIn.mpr ⟨_, isEvent, rfl⟩
  | _ => cases same

theorem acceptedAcks_subset {log : List Event} {handle : Handle} :
    ∀ t ∈ acceptedAcks log handle, t ∈ readingsIn log := by
  intro t isIn
  obtain ⟨event, isEvent, same⟩ := List.mem_filterMap.mp isIn
  cases event with
  | received frame head now =>
    cases head with
    | none => cases same
    | some head =>
      obtain ⟨-, same⟩ := Option.ite_none_right_eq_some.mp same
      cases same
      exact mem_readingsIn.mpr ⟨_, isEvent, rfl⟩
  | _ => cases same

theorem transmissions_wrote {request : Request} {result : Int} {now : Timespec}
    (success : 0 ≤ result) : transmissions [.wrote request result now] request.handle = [now] := by
  simp [transmissions, success]

theorem transmissions_wrote_of_ne {request : Request} {result : Int} {now : Timespec}
    {handle : Handle} (other : request.handle ≠ handle) :
    transmissions [.wrote request result now] handle = [] := by
  simp [transmissions, other]

theorem acceptedAcks_received {head : Request} {frame : Frame} {now : Timespec}
    (isAck : frame.dataType = frameDataTypeAck) (isMatch : ackMatches frame head = true) :
    acceptedAcks [.received frame (some head) now] head.handle = [now] := by
  simp [acceptedAcks, isAck, isMatch]

theorem acceptedAcks_received_of_ne {head : Request} {frame : Frame} {now : Timespec}
    {handle : Handle} (other : head.handle ≠ handle) :
    acceptedAcks [.received frame (some head) now] handle = [] := by
  simp [acceptedAcks, other]

/-- The fields of a request that its timers use. -/
structure Timer where
  handle : Handle
  timeout : Timespec
  attempts : Nat
  acked : Bool

def Request.timer (request : Request) : Timer where
  handle := request.handle
  timeout := request.timeout
  attempts := request.attempts
  acked := request.acked

namespace RequestQueue

def timers (q : RequestQueue) : List Timer := q.requests.map Request.timer

theorem timers_enqueue (q : RequestQueue) (request : Request) :
    (q.enqueue request).timers = q.timers ++ [request.timer] :=
  map_enqueue (fun _ _ => rfl) q request

theorem timers_advance (q : RequestQueue) : q.advance.timers = q.timers.tail :=
  map_advance (fun _ _ => rfl) q

theorem timers_cons {q : RequestQueue} {head : Request} {rest : List Request}
    (first : q.requests = head :: rest) : q.timers = head.timer :: rest.map Request.timer := by
  rw [timers, first]
  rfl

theorem timers_mapHead {q : RequestQueue} {head : Request} {rest : List Request}
    (first : q.requests = head :: rest) (f : Request → Request) :
    (q.mapHead f).timers = (f head).timer :: rest.map Request.timer := by
  rw [timers, requests_mapHead first, List.map_cons]

end RequestQueue

/-- What the timer of a waiting request says about the record. -/
structure Tracked (log : List Event) (timer : Timer) : Prop where
  accepted : timer.handle ∈ (acceptedIn log).map Request.handle
  attempts : (transmissions log timer.handle).length = timer.attempts
  waiting : timer.acked = false → acceptedAcks log timer.handle = []
  valid : timer.attempts ≠ 0 → timer.timeout.Valid
  last : timer.acked = false → ∀ t ∈ transmissions log timer.handle,
    t.nanos + 1000000000 ≤ timer.timeout.nanos
  acked : timer.acked = true → ∃ a ∈ acceptedAcks log timer.handle,
    a.nanos + 1000000000 ≤ timer.timeout.nanos

/-- What is recorded when an error callback for a missing ACK or reply runs: the
call that read the clock as `now` has just given the request up. -/
structure TimedOut (before : List Event) (call : Called) : Prop where
  noAck : call.arg = .error mdrENoAck → ∃ earlier now head,
    before = earlier ++ [.expired now, .finished head .noAck] ∧
      (transmissions before call.handle).length = packetMaxTries ∧
      (∀ t ∈ transmissions before call.handle, Timespec.MoreThanASecond t now) ∧
      acceptedAcks before call.handle = []
  noReply : call.arg = .error mdrENoReply → ∃ earlier now head,
    before = earlier ++ [.expired now, .finished head .noReply] ∧
      ∃ a ∈ acceptedAcks before call.handle, Timespec.MoreThanASecond a now

/-- The transmissions of every request are at most three and apart, the timers of
those that wait are tracked, and a timeout that is owed a callback is justified. -/
structure Paced (past : List Event) (t : Session) : Prop where
  tracked : ∀ timer ∈ t.queue.timers, Tracked past timer
  distinct : (t.queue.timers.map Timer.handle).Nodup
  unknown : ∀ handle ∉ (acceptedIn past).map Request.handle,
    transmissions past handle = [] ∧ acceptedAcks past handle = []
  most : ∀ handle, (transmissions past handle).length ≤ packetMaxTries
  apart : ∀ handle, (transmissions past handle).Pairwise Timespec.MoreThanASecond
  owed : ∀ pre call post, t.owed = pre ++ .called call :: post → TimedOut (past ++ pre) call

/-- An event that neither transmits, nor accepts a request or an ACK. -/
structure Event.Idle (event : Event) : Prop where
  accepts : acceptedIn [event] = []
  transmits : ∀ handle, transmissions [event] handle = []
  acks : ∀ handle, acceptedAcks [event] handle = []

theorem Event.Idle.of_isEnding {event : Event} (isEnding : event.IsEnding = true) :
    event.Idle := by
  cases event with
  | acked | finished | called => exact ⟨rfl, fun _ => rfl, fun _ => rfl⟩
  | _ => cases isEnding

section Idle

variable {past : List Event} {event : Event}

theorem Event.Idle.transmissions (idle : event.Idle) (handle : Handle) :
    Libmdr.transmissions (past ++ [event]) handle = Libmdr.transmissions past handle :=
  transmissions_append_of_nil (idle.transmits handle)

theorem Event.Idle.acceptedAcks (idle : event.Idle) (handle : Handle) :
    Libmdr.acceptedAcks (past ++ [event]) handle = Libmdr.acceptedAcks past handle :=
  acceptedAcks_append_of_nil (idle.acks handle)

theorem Event.Idle.acceptedIn (idle : event.Idle) :
    Libmdr.acceptedIn (past ++ [event]) = Libmdr.acceptedIn past :=
  acceptedIn_append_of_nil idle.accepts

/-- A timer whose request an event does not concern. -/
theorem Tracked.mono {timer : Timer} (tracked : Tracked past timer)
    (transmits : transmissions [event] timer.handle = [])
    (acks : acceptedAcks [event] timer.handle = []) : Tracked (past ++ [event]) timer := by
  have sends : transmissions (past ++ [event]) timer.handle = transmissions past timer.handle :=
    transmissions_append_of_nil transmits
  have heard : acceptedAcks (past ++ [event]) timer.handle = acceptedAcks past timer.handle :=
    acceptedAcks_append_of_nil acks
  obtain ⟨accepted, attempts, waiting, valid, last, acked⟩ := tracked
  refine ⟨?_, ?_, ?_, valid, ?_, ?_⟩
  · rw [acceptedIn_append, List.map_append]
    exact List.mem_append_left _ accepted
  · rw [sends, attempts]
  · rw [heard]
    exact waiting
  · rw [sends]
    exact last
  · rw [heard]
    exact acked

theorem Paced.idle {q q' : RequestQueue} {owed : List Event} {closing closing' : Bool}
    (paced : Paced past ⟨q, [], closing⟩) (idle : event.Idle) (kept : q'.timers.Sublist q.timers)
    (justified : ∀ pre call post, owed = pre ++ .called call :: post →
      TimedOut (past ++ [event] ++ pre) call) : Paced (past ++ [event]) ⟨q', owed, closing'⟩ where
  tracked := fun timer isIn =>
    (paced.tracked timer (kept.subset isIn)).mono (idle.transmits _) (idle.acks _)
  distinct := paced.distinct.sublist (kept.map _)
  unknown := by
    intro handle
    rw [idle.acceptedIn, idle.transmissions, idle.acceptedAcks]
    exact paced.unknown handle
  most := by
    intro handle
    rw [idle.transmissions]
    exact paced.most handle
  apart := by
    intro handle
    rw [idle.transmissions]
    exact paced.apart handle
  owed := justified

end Idle

/-! ## Timers -/

/-- A new request is tracked when nothing was recorded for its handle. -/
theorem Tracked.of_accepted {past : List Event} {request : Request} (unsent : request.attempts = 0)
    (waiting : request.acked = false) (noSend : transmissions past request.handle = [])
    (noAck : acceptedAcks past request.handle = []) :
    Tracked (past ++ [.accepted request]) request.timer := by
  have sends : transmissions (past ++ [.accepted request]) request.timer.handle = [] :=
    (transmissions_append_of_nil rfl).trans noSend
  refine ⟨?_, ?_, fun _ => (acceptedAcks_append_of_nil rfl).trans noAck,
    fun attempted => absurd unsent attempted, ?_, ?_⟩
  · rw [acceptedIn_append, List.map_append]
    exact List.mem_append_right _ (List.mem_singleton.mpr rfl)
  · rw [sends]
    exact unsent.symm
  · rw [sends]
    intro _ t isIn
    cases isIn
  · intro isAcked
    rw [show request.timer.acked = false from waiting] at isAcked
    cases isAcked

/-- A transmission that is due comes more than a second after those before it: between two
transmissions the timer ran out. -/
theorem Tracked.late {past : List Event} {head : Request} {now : Timespec}
    (tracked : Tracked past head.timer) (validNow : now.Valid)
    (due : head.attempts = 0 ∨ 0 < timespecCompare now head.timeout ∧ head.acked = false ∧
      head.attempts < packetMaxTries) :
    ∀ t ∈ transmissions past head.handle, Timespec.MoreThanASecond t now := by
  have attempts : (transmissions past head.handle).length = head.attempts := tracked.attempts
  intro t isIn
  rcases due with unsent | ⟨late, notAcked, -⟩
  · rw [List.eq_nil_of_length_eq_zero (attempts.trans unsent)] at isIn
    cases isIn
  · have attempted : head.attempts ≠ 0 := by
      rw [← attempts]
      exact Nat.ne_of_gt (List.length_pos_of_mem isIn)
    exact Int.lt_of_le_of_lt (tracked.last notAcked t isIn)
      ((timespecCompare_pos validNow (tracked.valid attempted)).mp late)

/-- The timer of a request that is transmitted once more. -/
theorem Tracked.sent {past : List Event} {head : Request} {result : Int} {now : Timespec}
    (tracked : Tracked past head.timer)
    (clocked : Clocked (readingsIn (past ++ [.wrote head result now]))) (success : 0 ≤ result) :
    Tracked (past ++ [.wrote head result now]) (head.sent now).timer := by
  obtain ⟨accepted, attempts, waiting, -, -, acked⟩ := tracked
  obtain ⟨validNow, earlier⟩ := clocked.last rfl
  have sends : transmissions (past ++ [.wrote head result now]) (head.sent now).timer.handle =
      transmissions past head.handle ++ [now] := by
    rw [transmissions_append]
    exact congrArg _ (transmissions_wrote success)
  have heard : acceptedAcks (past ++ [.wrote head result now]) (head.sent now).timer.handle =
      acceptedAcks past head.handle :=
    acceptedAcks_append_of_nil rfl
  have later : (head.sent now).timer.timeout.nanos = now.nanos + 1000000000 :=
    timespecAdd_nanos now
  refine ⟨?_, ?_, ?_, fun _ => timespecAdd_valid validNow, ?_, ?_⟩
  · rw [acceptedIn_append_of_nil rfl]
    exact accepted
  · rw [sends, List.length_append]
    exact congrArg (· + 1) attempts
  · rw [heard]
    exact waiting
  · intro _ t isIn
    rw [sends] at isIn
    rw [later]
    rcases List.mem_append.mp isIn with old | isNow
    · have early := earlier t (transmissions_subset t old)
      omega
    · obtain rfl := List.mem_singleton.mp isNow
      exact Int.le_refl _
  · intro isAcked
    obtain ⟨a, isIn, -⟩ := acked isAcked
    rw [heard]
    refine ⟨a, isIn, ?_⟩
    have early := earlier a (acceptedAcks_subset a isIn)
    omega

/-- The timer of a request whose ACK is accepted and that waits for its reply. -/
theorem Tracked.ackedAt {past : List Event} {head : Request} {frame : Frame} {now : Timespec}
    (tracked : Tracked past head.timer) (validNow : now.Valid)
    (isAck : frame.dataType = frameDataTypeAck) (isMatch : ackMatches frame head = true) :
    Tracked (past ++ [.received frame (some head) now]) (head.ackedAt now).timer := by
  refine ⟨?_, ?_, (fun no => by cases no), fun _ => timespecAdd_valid validNow,
    (fun no => by cases no), fun _ => ⟨now, ?_, ?_⟩⟩
  · rw [acceptedIn_append_of_nil rfl]
    exact tracked.accepted
  · rw [transmissions_append_of_nil rfl]
    exact tracked.attempts
  · rw [acceptedAcks_append]
    apply List.mem_append_right
    rw [show (head.ackedAt now).timer.handle = head.handle from rfl,
      acceptedAcks_received isAck isMatch]
    exact List.mem_cons_self
  · exact Int.le_of_eq (timespecAdd_nanos now).symm

/-! ## The steps -/

/-- The callback at the end of a request comes right behind the end. -/
theorem ending_split {request : Request} {outcome : Outcome} {pre post : List Event} {call : Called}
    (split : request.ending outcome = pre ++ .called call :: post) :
    pre = [.finished request outcome] ∧ request.callOf outcome = some call := by
  unfold Request.ending at split
  cases pre with
  | nil => cases split
  | cons first pre =>
    obtain ⟨rfl, split⟩ := List.cons_eq_cons.mp split
    cases isCall : request.callOf outcome with
    | none => simp [isCall] at split
    | some made =>
      simp only [isCall, Option.toList_some, List.map_cons, List.map_nil] at split
      cases pre with
      | nil =>
        cases split
        exact ⟨rfl, rfl⟩
      | cons _ pre => simp at split

/-- The end of a request that succeeds is no timeout. -/
theorem timedOut_of_result {request : Request} {outcome : Outcome} {before pre post : List Event}
    {call : Called} (succeeds : ∀ e, request.callOf outcome = some call → call.arg ≠ .error e)
    (split : request.ending outcome = pre ++ .called call :: post) : TimedOut before call :=
  ⟨fun isError => absurd isError (succeeds _ (ending_split split).2),
    fun isError => absurd isError (succeeds _ (ending_split split).2)⟩

theorem callOf_ack_arg {request : Request} {frame : Frame} {call : Called} (e : Errno)
    (isCall : request.callOf (.ack frame) = some call) : call.arg ≠ .error e := by
  obtain ⟨fn, -, rfl⟩ := Option.map_eq_some_iff.mp isCall
  exact fun same => by cases same

theorem callOf_reply_arg {request : Request} {packet : Packet} {call : Called} (e : Errno)
    (isCall : request.callOf (.reply packet) = some call) : call.arg ≠ .error e := by
  obtain ⟨fn, -, rfl⟩ := Option.map_eq_some_iff.mp isCall
  exact fun same => by cases same

/-- A new request is at the end of the queue, and nothing was recorded for it. -/
theorem Paced.accepted {past : List Event} {q : RequestQueue} {request : Request}
    (paced : Paced past ⟨q, [], false⟩) (unsent : request.attempts = 0)
    (waiting : request.acked = false)
    (new : request.handle ∉ (acceptedIn past).map Request.handle) :
    Paced (past ++ [.accepted request]) ⟨q.enqueue request, [], false⟩ := by
  have handles : (acceptedIn (past ++ [.accepted request])).map Request.handle =
      (acceptedIn past).map Request.handle ++ [request.handle] := by
    rw [acceptedIn_append, List.map_append]
    rfl
  obtain ⟨noSend, noAck⟩ := paced.unknown _ new
  have sends (handle : Handle) : transmissions (past ++ [.accepted request]) handle =
      transmissions past handle :=
    transmissions_append_of_nil rfl
  have heard (handle : Handle) : acceptedAcks (past ++ [.accepted request]) handle =
      acceptedAcks past handle :=
    acceptedAcks_append_of_nil rfl
  constructor
  · intro timer isIn
    rw [RequestQueue.timers_enqueue] at isIn
    rcases List.mem_append.mp isIn with old | isNew
    · exact (paced.tracked timer old).mono rfl rfl
    · rw [List.mem_singleton.mp isNew]
      exact .of_accepted unsent waiting noSend noAck
  · rw [RequestQueue.timers_enqueue, List.map_append, List.nodup_append]
    refine ⟨paced.distinct, List.nodup_singleton _, ?_⟩
    intro handle isOld other isNew same
    obtain ⟨timer, isIn, rfl⟩ := List.mem_map.mp isOld
    rw [List.mem_singleton.mp isNew] at same
    apply new
    rw [show request.handle = request.timer.handle from rfl, ← same]
    exact (paced.tracked timer isIn).accepted
  · intro handle absent
    rw [sends, heard]
    rw [handles, List.mem_append, not_or] at absent
    exact paced.unknown handle absent.1
  · intro handle
    rw [sends]
    exact paced.most handle
  · intro handle
    rw [sends]
    exact paced.apart handle
  · exact fun pre call post owed => by simp at owed

/-- The other requests have other handles than the first one. -/
theorem handle_ne_of_nodup {head : Request} {rest : List Timer}
    (distinct : ((head.timer :: rest).map Timer.handle).Nodup) :
    ∀ timer ∈ rest, head.handle ≠ timer.handle := by
  intro timer isIn same
  apply (List.nodup_cons.mp distinct).1
  rw [show head.timer.handle = timer.handle from same]
  exact List.mem_map_of_mem isIn

/-- The first request is transmitted. -/
theorem Paced.transmitted {past : List Event} {q : RequestQueue} {head : Request}
    {rest : List Request} {result : Int} {now : Timespec} (paced : Paced past ⟨q, [], false⟩)
    (clocked : Clocked (readingsIn (past ++ [.wrote head result now])))
    (first : q.requests = head :: rest)
    (due : head.attempts = 0 ∨ 0 < timespecCompare now head.timeout ∧ head.acked = false ∧
      head.attempts < packetMaxTries) (success : 0 ≤ result) :
    Paced (past ++ [.wrote head result now]) ⟨q.mapHead (Request.sent now), [], false⟩ := by
  obtain ⟨tracked, distinct, unknown, most, apart, -⟩ := paced
  rw [RequestQueue.timers_cons first] at tracked distinct
  have others := handle_ne_of_nodup distinct
  have isTracked := tracked _ List.mem_cons_self
  have attempts : (transmissions past head.handle).length = head.attempts := isTracked.attempts
  have late := isTracked.late (clocked.last rfl).1 due
  have sends : transmissions (past ++ [.wrote head result now]) head.handle =
      transmissions past head.handle ++ [now] := by
    rw [transmissions_append, transmissions_wrote success]
  have sendsOther (handle : Handle) (other : head.handle ≠ handle) :
      transmissions (past ++ [.wrote head result now]) handle = transmissions past handle :=
    transmissions_append_of_nil (transmissions_wrote_of_ne other)
  have few : head.attempts < packetMaxTries := Request.attempts_lt_of_due due
  constructor
  · intro timer isIn
    rw [RequestQueue.timers_mapHead first] at isIn
    rcases List.mem_cons.mp isIn with rfl | isRest
    · exact isTracked.sent clocked success
    · exact (tracked timer (List.mem_cons_of_mem _ isRest)).mono
        (transmissions_wrote_of_ne (others timer isRest)) rfl
  · rw [RequestQueue.timers_mapHead first]
    exact distinct
  · intro handle absent
    rw [acceptedIn_append_of_nil rfl] at absent
    have other : head.handle ≠ handle := fun same => absent (same ▸ isTracked.accepted)
    rw [sendsOther handle other, acceptedAcks_append_of_nil rfl]
    exact unknown handle absent
  · intro handle
    by_cases same : head.handle = handle
    · rw [← same, sends, List.length_append, attempts]
      exact few
    · rw [sendsOther handle same]
      exact most handle
  · intro handle
    by_cases same : head.handle = handle
    · rw [← same, sends]
      refine List.pairwise_append.mpr ⟨apart _, List.pairwise_singleton _ _, ?_⟩
      intro t isIn t' isNow
      rw [List.mem_singleton.mp isNow]
      exact late t isIn
    · rw [sendsOther handle same]
      exact apart handle
  · exact fun pre call post none => by simp at none

/-- An ACK is accepted for the first request, which waits on for its reply or leaves. -/
theorem Paced.heard {past : List Event} {q q' : RequestQueue} {head : Request}
    {rest : List Request} {frame : Frame} {now : Timespec} {owed : List Event}
    (paced : Paced past ⟨q, [], false⟩)
    (clocked : Clocked (readingsIn (past ++ [.received frame (some head) now])))
    (first : q.requests = head :: rest) (isAck : frame.dataType = frameDataTypeAck)
    (isMatch : ackMatches frame head = true)
    (timers : q'.timers = (head.ackedAt now).timer :: rest.map Request.timer ∨
      q'.timers = rest.map Request.timer)
    (justified : ∀ pre call post, owed = pre ++ .called call :: post →
      TimedOut (past ++ [.received frame (some head) now] ++ pre) call) :
    Paced (past ++ [.received frame (some head) now]) ⟨q', owed, false⟩ := by
  obtain ⟨tracked, distinct, unknown, most, apart, -⟩ := paced
  rw [RequestQueue.timers_cons first] at tracked distinct
  have others := handle_ne_of_nodup distinct
  have isTracked := tracked _ List.mem_cons_self
  have waits := isTracked.ackedAt (clocked.last rfl).1 isAck isMatch
  have sends (handle : Handle) : transmissions (past ++ [.received frame (some head) now]) handle =
      transmissions past handle :=
    transmissions_append_of_nil rfl
  have behind : ∀ timer ∈ rest.map Request.timer,
      Tracked (past ++ [.received frame (some head) now]) timer := fun timer isIn =>
    (tracked timer (List.mem_cons_of_mem _ isIn)).mono rfl
      (acceptedAcks_received_of_ne (others timer isIn))
  constructor
  · intro timer isIn
    rcases timers with waiting | left
    · rw [waiting] at isIn
      rcases List.mem_cons.mp isIn with rfl | isRest
      · exact waits
      · exact behind timer isRest
    · rw [left] at isIn
      exact behind timer isIn
  · rcases timers with waiting | left
    · rw [waiting]
      exact distinct
    · rw [left]
      exact (List.nodup_cons.mp distinct).2
  · intro handle absent
    rw [acceptedIn_append_of_nil rfl] at absent
    have other : head.handle ≠ handle := fun same => absent (same ▸ isTracked.accepted)
    rw [sends, acceptedAcks_append_of_nil (acceptedAcks_received_of_ne other)]
    exact unknown handle absent
  · intro handle
    rw [sends]
    exact most handle
  · intro handle
    rw [sends]
    exact apart handle
  · exact justified

/-- The first request is given up: its timer ran out. -/
theorem Paced.timedOut {past : List Event} {q : RequestQueue} {head : Request}
    {rest : List Request} {now : Timespec} {pre post : List Event} {call : Called}
    (paced : Paced past ⟨q, [], false⟩) (clocked : Clocked (readingsIn (past ++ [.expired now])))
    (first : q.requests = head :: rest) (sent : head.attempts ≠ 0)
    (late : 0 < timespecCompare now head.timeout)
    (spent : head.acked = true ∨ packetMaxTries ≤ head.attempts)
    (split : head.ending (if head.acked then .noReply else .noAck) = pre ++ .called call :: post) :
    TimedOut (past ++ [.expired now] ++ pre) call := by
  obtain ⟨tracked, -, -, most, -, -⟩ := paced
  rw [RequestQueue.timers_cons first] at tracked
  obtain ⟨-, attempts, waiting, valid, last, acked⟩ := tracked _ List.mem_cons_self
  obtain ⟨validNow, -⟩ := clocked.last rfl
  have expired : head.timeout.nanos < now.nanos :=
    (timespecCompare_pos validNow (valid sent)).mp late
  obtain ⟨rfl, isCall⟩ := ending_split split
  have whole (outcome : Outcome) : past ++ [.expired now] ++ [.finished head outcome] =
      past ++ [.expired now, .finished head outcome] := List.append_assoc _ _ _
  have sends (outcome : Outcome) : transmissions
      (past ++ [.expired now, .finished head outcome]) head.handle =
      transmissions past head.handle :=
    transmissions_append_of_nil rfl
  have heard (outcome : Outcome) : acceptedAcks
      (past ++ [.expired now, .finished head outcome]) head.handle =
      acceptedAcks past head.handle :=
    acceptedAcks_append_of_nil rfl
  cases isAcked : head.acked with
  | true =>
    rw [isAcked, if_pos rfl] at isCall
    rw [if_pos rfl]
    obtain ⟨fn, -, rfl⟩ := Option.map_eq_some_iff.mp isCall
    rw [whole]
    refine ⟨(fun noAck => by cases noAck), fun _ => ⟨past, now, head, rfl, ?_⟩⟩
    obtain ⟨a, isIn, early⟩ := acked isAcked
    refine ⟨a, by rw [heard]; exact isIn, ?_⟩
    exact Int.lt_of_le_of_lt early expired
  | false =>
    rw [isAcked, if_neg Bool.false_ne_true] at isCall
    rw [if_neg Bool.false_ne_true]
    obtain ⟨fn, -, rfl⟩ := Option.map_eq_some_iff.mp isCall
    rw [whole]
    refine ⟨fun _ => ⟨past, now, head, rfl, ?_, ?_, ?_⟩, (fun noReply => by cases noReply)⟩
    · rw [sends]
      refine Nat.le_antisymm (most _) ?_
      rw [show (transmissions past head.handle).length = head.attempts from attempts]
      rcases spent with yes | tries
      · rw [isAcked] at yes
        cases yes
      · exact tries
    · rw [sends]
      exact fun t isIn => Int.lt_of_le_of_lt (last isAcked t isIn) expired
    · rw [heard]
      exact waiting isAcked

theorem Paced.step {past : List Event} {t t' : Session} {event : Event} (paced : Paced past t)
    (owes : t.OwesEndings) (isOpen : t'.closing = false)
    (clocked : Clocked (readingsIn (past ++ [event])))
    (fresh : ((acceptedIn (past ++ [event])).map Request.handle).Nodup)
    (step : Session.Step t event t') : Paced (past ++ [event]) t' := by
  cases step with
  | owed q event rest closing =>
    have idle : event.Idle := .of_isEnding (owes event List.mem_cons_self)
    obtain ⟨tracked, distinct, unknown, most, apart, owed⟩ := paced
    have bare : Paced past ⟨q, [], closing⟩ :=
      ⟨tracked, distinct, unknown, most, apart, fun _ _ _ none => by simp at none⟩
    refine bare.idle idle (List.Sublist.refl _) ?_
    intro pre call post split
    have justified := owed (event :: pre) call post (congrArg (event :: ·) split)
    rwa [List.append_cons] at justified
  | accepted q request closing unsent waiting =>
    obtain rfl : closing = false := isOpen
    apply paced.accepted unsent waiting
    rw [acceptedIn_append, List.map_append, List.nodup_append] at fresh
    exact fun old => fresh.2.2 _ old _ List.mem_cons_self rfl
  | wrote q head rest result now first due =>
    by_cases failed : result < 0
    · rw [if_pos failed]
      refine paced.idle ⟨rfl, fun handle => ?_, fun _ => rfl⟩ (List.Sublist.refl _)
        fun _ _ _ none => by simp at none
      have none : ¬ (head.handle = handle ∧ 0 ≤ result) := fun sent => absurd sent.2 (by omega)
      simp [transmissions, none]
    · rw [if_neg failed]
      exact paced.transmitted clocked first due (Int.not_lt.mp failed)
  | expired q head rest now first sent late spent =>
    refine paced.idle ⟨rfl, fun _ => rfl, fun _ => rfl⟩ ?_ fun _ _ _ split =>
      paced.timedOut clocked first sent late spent split
    rw [RequestQueue.timers_advance]
    cases head.acked <;> exact List.tail_sublist _
  | ackedOnly q head rest frame now first isAck isMatch only =>
    refine paced.heard clocked first isAck isMatch (.inr ?_) fun _ _ _ split =>
      timedOut_of_result callOf_ack_arg split
    rw [RequestQueue.timers_advance, RequestQueue.timers_cons first]
    rfl
  | ackedWaits q head rest frame now first isAck isMatch waits =>
    refine paced.heard clocked first isAck isMatch (.inl ?_) ?_
    · exact RequestQueue.timers_mapHead first _
    · intro pre call post split
      rcases List.singleton_eq_append_iff.mp split with ⟨-, owed⟩ | ⟨-, owed⟩ <;> cases owed
  | ignored q frame now other =>
    refine paced.idle ⟨rfl, fun _ => rfl, fun handle => ?_⟩ (List.Sublist.refl _)
      fun _ _ _ none => by simp at none
    cases isHead : q.requests.head? with
    | none => rfl
    | some head =>
      have noMatch : ¬ (head.handle = handle ∧ frame.dataType = frameDataTypeAck ∧
          ackMatches frame head = true) := by
        rintro ⟨-, isAck, isMatch⟩
        rw [other isAck head isHead] at isMatch
        cases isMatch
      simp [acceptedAcks, noMatch]
  | replied q head rest packet first isMatch =>
    refine paced.idle ⟨rfl, fun _ => rfl, fun _ => rfl⟩ ?_ fun _ _ _ split =>
      timedOut_of_result callOf_reply_arg split
    rw [RequestQueue.timers_advance]
    exact List.tail_sublist _
  | closing => cases isOpen
  | unexpected | wroteAck | notified =>
    exact paced.idle ⟨rfl, fun _ => rfl, fun _ => rfl⟩ (List.Sublist.refl _)
      fun _ _ _ none => by simp at none

/-! ## Runs -/

theorem paced_start (fconn : FrameConn) (host : Host) :
    Paced [] ((State.start fconn host).session false) where
  tracked := fun _ isIn => by cases isIn
  distinct := .nil
  unknown := fun _ _ => ⟨rfl, rfl⟩
  most := fun _ => Nat.zero_le _
  apart := fun _ => .nil
  owed := fun pre call post none => by
    rw [State.session] at none
    simp at none

/-- Accepted requests have different handles. -/
theorem Numbered.nodup {requests : List Request} {m n : Handle} (numbered : Numbered requests m n) :
    (requests.map Request.handle).Nodup := by
  rw [List.Nodup, List.pairwise_map]
  exact numbered.increasing.imp Nat.ne_of_lt

/-- Along a run of the session that starts with an empty record. -/
theorem paced_run {t u : Session} {events : List Event} (run : Trace.Run Session.Step t events u)
    (start : Paced [] t) (owes : t.OwesEndings) (isOpen : u.closing = false)
    (clocked : Clocked (readingsIn events))
    (fresh : ((acceptedIn events).map Request.handle).Nodup) : Paced events u := by
  have along : u.OwesEndings ∧ (u.closing = false → Clocked (readingsIn events) →
      ((acceptedIn events).map Request.handle).Nodup → Paced events u) := by
    refine Trace.Run.invariant (fun past t => t.OwesEndings ∧ (t.closing = false →
      Clocked (readingsIn past) → ((acceptedIn past).map Request.handle).Nodup → Paced past t))
      ⟨owes, fun _ _ _ => start⟩ ?_ run
    intro past t event t' now step
    refine ⟨now.1.step step, fun isOpen clocked fresh => ?_⟩
    refine (now.2 (step.was_open isOpen) clocked.of_append ?_).step now.1 isOpen clocked fresh step
    rw [acceptedIn_append, List.map_append, List.nodup_append] at fresh
    exact fresh.1
  exact along.2 isOpen clocked fresh

/-- **Retransmissions are few and apart.** In a run whose clock does not go
backwards a request is transmitted at most three times, each time more than a
second after the time before. An error callback for a missing ACK runs behind
three transmissions and more than a second after them, with no ACK accepted; one
for a missing reply runs more than a second after an ACK was accepted. -/
theorem retransmission_discipline {env : Env} {calls : List Call} {fconn : FrameConn} {host : Host}
    {s : State} (clocked : Clocked (readings calls))
    (ran : run env calls (State.start fconn host) = some s) :
    (∀ handle, (transmissions s.log handle).length ≤ packetMaxTries ∧
      (transmissions s.log handle).Pairwise Timespec.MoreThanASecond) ∧
    ∀ before call after, s.log = before ++ .called call :: after → TimedOut before call := by
  obtain ⟨records, recorded⟩ := run_log ran
  have clocked := recorded.clocked clocked
  have fresh := records.numbered.nodup
  have owes : ((State.start fconn host).session false).OwesEndings := fun _ isIn => by cases isIn
  constructor
  · have paced := paced_run records.run (paced_start fconn host) owes rfl clocked fresh
    exact fun handle => ⟨paced.most handle, paced.apart handle⟩
  · intro before call after split
    rw [split] at clocked fresh
    have run := records.run
    rw [split] at run
    obtain ⟨t, t', front, step, back⟩ := run.at_label
    rw [acceptedIn_append, List.map_append, List.nodup_append] at fresh
    have isOpen : t'.closing = false := by
      refine Trace.Run.invariant (fun _ u => u.closing = false → t'.closing = false) id ?_ back rfl
      exact fun _ _ _ _ kept step isOpen => kept (step.was_open isOpen)
    have paced := paced_run front (paced_start fconn host) owes (step.was_open isOpen)
      clocked.of_append fresh.1
    cases step with
    | owed q event rest closing =>
      have justified := paced.owed [] call rest rfl
      rwa [List.append_nil] at justified

/-- A request that is sent three times, two seconds apart, and given up. -/
theorem retransmission_discipline_power_off :
    ∃ s, run Env.idle [.user powerOff, .process ⟨0, 0⟩ false true, .process ⟨2, 0⟩ false true,
        .process ⟨4, 5⟩ false true, .process ⟨6, 0⟩ false true]
        (State.start .fresh (.listing [] [.wrote 100, .wrote 100, .wrote 100])) = some s ∧
      (∀ handle, (transmissions s.log handle).length ≤ packetMaxTries ∧
        (transmissions s.log handle).Pairwise Timespec.MoreThanASecond) ∧
      ∀ before call after, s.log = before ++ .called call :: after → TimedOut before call := by
  obtain ⟨s, ran⟩ := Option.isSome_iff_exists.mp (show (run Env.idle
    [.user powerOff, .process ⟨0, 0⟩ false true, .process ⟨2, 0⟩ false true,
      .process ⟨4, 5⟩ false true, .process ⟨6, 0⟩ false true]
    (State.start .fresh (.listing [] [.wrote 100, .wrote 100, .wrote 100]))).isSome = true
    by decide +kernel)
  exact ⟨s, ran, retransmission_discipline ⟨by decide, by decide⟩ ran⟩

end Libmdr
