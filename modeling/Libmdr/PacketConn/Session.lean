import Libmdr.PacketConn.Parts
import Libmdr.Lib.Trace

/-!
# The life of the request queue

What the record of a connection says about its request queue: each event changes
the queue in one way, and some events must be followed by others at once. A
request that ends leaves the queue with the event that ends it; `owed` holds what
has to be recorded next, that it is finished and the call of its callback.

The C code gives a request up in another order: it calls the error callback first
and advances the queue behind it. The callback can only add requests at the end
of the queue then, so both orders give the same queue (`advance_enqueue`).
-/

namespace Libmdr
set_option autoImplicit false

/-- The callback that an outcome calls, when it is not NULL. -/
def Request.callOf (request : Request) (outcome : Outcome) : Option Called :=
  let call (callback : Option FnPtr) (arg : CallArg) : Option Called :=
    callback.map fun fn =>
      { handle := request.handle, fn, arg, userData := request.callbacks.userData }
  match outcome with
  | .ack _ => call request.callbacks.result (.result none)
  | .reply packet => call request.callbacks.result (.result (some packet))
  | .noAck => call request.callbacks.error (.error mdrENoAck)
  | .noReply => call request.callbacks.error (.error mdrENoReply)
  | .closed => call request.callbacks.error (.error mdrEClosed)

/-- What is recorded when a request ends. -/
def Request.ending (request : Request) (outcome : Outcome) : List Event :=
  .finished request outcome :: (request.callOf outcome).toList.map .called

/-- Events that can be owed. -/
def Event.IsEnding : Event → Bool
  | .finished _ _ | .called _ | .acked _ => true
  | _ => false

/-- The queue, what has to be recorded next, and whether the connection is being closed. -/
structure Session where
  queue : RequestQueue
  owed : List Event
  closing : Bool

/-- A request that is due has an attempt left. -/
theorem Request.attempts_lt_of_due {head : Request} {late : Prop}
    (due : head.attempts = 0 ∨ late ∧ head.acked = false ∧ head.attempts < packetMaxTries) :
    head.attempts < packetMaxTries := by
  rcases due with unsent | ⟨-, -, few⟩
  · rw [unsent]
    decide
  · exact few

namespace Session

/-- A new request at the end; while the connection is closed its frame gets no
sequence id. -/
def add (q : RequestQueue) (closing : Bool) (request : Request) : RequestQueue :=
  if closing then { q with requests := q.requests ++ [request] } else q.enqueue request

/-- One event. -/
inductive Step : Session → Event → Session → Prop
  | owed (q : RequestQueue) (event : Event) (rest : List Event) (closing : Bool) :
      Step ⟨q, event :: rest, closing⟩ event ⟨q, rest, closing⟩
  | accepted (q : RequestQueue) (request : Request) (closing : Bool)
      (unsent : request.attempts = 0) (waiting : request.acked = false) :
      Step ⟨q, [], closing⟩ (.accepted request) ⟨add q closing request, [], closing⟩
  | wrote (q : RequestQueue) (head : Request) (rest : List Request) (result : Int) (now : Timespec)
      (first : q.requests = head :: rest)
      (due : head.attempts = 0 ∨ 0 < timespecCompare now head.timeout ∧ head.acked = false ∧
        head.attempts < packetMaxTries) :
      Step ⟨q, [], false⟩ (.wrote head result now)
        ⟨if result < 0 then q else q.mapHead (Request.sent now), [], false⟩
  | expired (q : RequestQueue) (head : Request) (rest : List Request) (now : Timespec)
      (first : q.requests = head :: rest) (sent : head.attempts ≠ 0)
      (late : 0 < timespecCompare now head.timeout)
      (spent : head.acked = true ∨ packetMaxTries ≤ head.attempts) :
      Step ⟨q, [], false⟩ (.expired now)
        ⟨(if head.acked then q else q.flip).advance,
          head.ending (if head.acked then .noReply else .noAck), false⟩
  | ackedOnly (q : RequestQueue) (head : Request) (rest : List Request) (frame : Frame)
      (now : Timespec) (first : q.requests = head :: rest)
      (isAck : frame.dataType = frameDataTypeAck) (isMatch : ackMatches frame head = true)
      (only : head.expectedReply.onlyAck = true) :
      Step ⟨q, [], false⟩ (.received frame (some head) now)
        ⟨q.advance, head.ending (.ack frame), false⟩
  | ackedWaits (q : RequestQueue) (head : Request) (rest : List Request) (frame : Frame)
      (now : Timespec) (first : q.requests = head :: rest)
      (isAck : frame.dataType = frameDataTypeAck) (isMatch : ackMatches frame head = true)
      (waits : head.expectedReply.onlyAck = false) :
      Step ⟨q, [], false⟩ (.received frame (some head) now)
        ⟨q.mapHead (Request.ackedAt now), [.acked head], false⟩
  | ignored (q : RequestQueue) (frame : Frame) (now : Timespec)
      (other : frame.dataType = frameDataTypeAck →
        ∀ head, q.requests.head? = some head → ackMatches frame head = false) :
      Step ⟨q, [], false⟩ (.received frame q.requests.head? now) ⟨q, [], false⟩
  | replied (q : RequestQueue) (head : Request) (rest : List Request) (packet : Packet)
      (first : q.requests = head :: rest)
      (isMatch : replySpecifierMatches head.expectedReply packet = true) :
      Step ⟨q, [], false⟩ (.parsed packet (some head))
        ⟨q.advance, head.ending (.reply packet), false⟩
  | unexpected (q : RequestQueue) (packet : Packet)
      (other : ∀ head, q.requests.head? = some head →
        replySpecifierMatches head.expectedReply packet = false) :
      Step ⟨q, [], false⟩ (.parsed packet q.requests.head?) ⟨q, [], false⟩
  | closing (q : RequestQueue) (head : Request) (rest : List Request) (closing : Bool)
      (first : q.requests = head :: rest) :
      Step ⟨q, [], closing⟩ .closing ⟨{ q with requests := rest }, head.ending .closed, true⟩
  | wroteAck (q : RequestQueue) (frame : Frame) (result : Int) :
      Step ⟨q, [], false⟩ (.wroteAck frame result) ⟨q, [], false⟩
  | notified (q : RequestQueue) (subscription : Subscription) (packet : Packet) :
      Step ⟨q, [], false⟩ (.notified subscription packet) ⟨q, [], false⟩

/-- A step records what is owed, or nothing was owed. -/
theorem Step.owed_or {t t' : Session} {event : Event} (step : Step t event t') :
    t.owed = event :: t'.owed ∨ t.owed = [] := by
  cases step <;> simp

/-- What is owed is recorded next. -/
theorem owed_prefix {t u : Session} {events : List Event} (run : Trace.Run Step t events u)
    (paid : u.owed = []) : t.owed <+: events := by
  induction run with
  | nil => simp [paid]
  | cons first _ ih =>
    rcases first.owed_or with next | nothing
    · rw [next]
      exact List.cons_prefix_cons.mpr ⟨rfl, ih paid⟩
    · rw [nothing]
      exact List.nil_prefix

/-- Only the end of a request, its callback and its mark as acknowledged are owed. -/
def OwesEndings (t : Session) : Prop := ∀ event ∈ t.owed, event.IsEnding = true

theorem OwesEndings.step {t t' : Session} {event : Event} (owes : t.OwesEndings)
    (step : Step t event t') : t'.OwesEndings := by
  have ending (head : Request) (outcome : Outcome) :
      ∀ event ∈ head.ending outcome, event.IsEnding = true := by
    intro event isIn
    rcases List.mem_cons.mp isIn with rfl | isCall
    · rfl
    · obtain ⟨call, -, rfl⟩ := List.mem_map.mp isCall
      rfl
  cases step with
  | owed q event rest closing => exact fun later isIn => owes later (List.mem_cons_of_mem _ isIn)
  | expired | ackedOnly | replied | closing => exact ending _ _
  | ackedWaits =>
    intro event isOwed
    rw [List.mem_singleton.mp isOwed]
    rfl
  | _ => exact fun _ isIn => by cases isIn

/-- What is owed is recorded. -/
theorem run_owed (q : RequestQueue) (owed : List Event) (closing : Bool) :
    Trace.Run Step ⟨q, owed, closing⟩ owed ⟨q, [], closing⟩ := by
  induction owed with
  | nil => exact .nil _
  | cons event rest ih => exact .cons (.owed q event rest closing) ih

/-- New requests are added one by one. -/
theorem run_accepted (q : RequestQueue) (closing : Bool) {requests : List Request}
    (new : ∀ request ∈ requests, request.attempts = 0 ∧ request.acked = false) :
    Trace.Run Step ⟨q, [], closing⟩ (requests.map .accepted)
      ⟨requests.foldl (add · closing ·) q, [], closing⟩ := by
  induction requests generalizing q with
  | nil => exact .nil _
  | cons request rest ih =>
    obtain ⟨unsent, waiting⟩ := new request List.mem_cons_self
    exact .cons (.accepted q request closing unsent waiting)
      (ih _ fun other isIn => new other (List.mem_cons_of_mem _ isIn))

/-- While the connection is closed new requests go to the end of the queue. -/
theorem foldl_add_closing (q : RequestQueue) (requests : List Request) :
    requests.foldl (add · true ·) q = { q with requests := q.requests ++ requests } := by
  induction requests generalizing q with
  | nil => simp
  | cons request rest ih =>
    rw [List.foldl_cons, ih]
    simp [add]

end Session

namespace RequestQueue

theorem head_mem {q : RequestQueue} {head : Request} {rest : List Request}
    (first : q.requests = head :: rest) : head ∈ q.requests := by
  rw [first]
  exact List.mem_cons_self

theorem rest_mem {q : RequestQueue} {head r : Request} {rest : List Request}
    (first : q.requests = head :: rest) (isRest : r ∈ rest) : r ∈ q.requests := by
  rw [first]
  exact List.mem_cons_of_mem _ isRest

/-! What the operations do to the requests in view of what the sequence id is no part of. -/

section Map

variable {α : Type} {g : Request → α}

theorem map_enqueue (same : ∀ request sequenceId, g (request.assign sequenceId) = g request)
    (q : RequestQueue) (request : Request) :
    (q.enqueue request).requests.map g = q.requests.map g ++ [g request] := by
  unfold enqueue
  split
  · rename_i empty
    rw [empty, List.map_singleton, same]
    rfl
  · exact List.map_append

theorem map_advance (same : ∀ request sequenceId, g (request.assign sequenceId) = g request)
    (q : RequestQueue) : q.advance.requests.map g = (q.requests.map g).tail := by
  obtain ⟨nextSequenceId, requests⟩ := q
  rcases requests with _ | ⟨head, _ | ⟨next, rest⟩⟩
  · rfl
  · rfl
  · exact congrArg (· :: rest.map g) (same next nextSequenceId)

theorem requests_mapHead {q : RequestQueue} {head : Request} {rest : List Request}
    (first : q.requests = head :: rest) (f : Request → Request) :
    (q.mapHead f).requests = f head :: rest := by
  rw [mapHead, first]

theorem map_mapHead {f : Request → Request} (same : ∀ request, g (f request) = g request)
    (q : RequestQueue) : (q.mapHead f).requests.map g = q.requests.map g := by
  cases split : q.requests with
  | nil => rw [mapHead, split, split]
  | cons head rest => rw [requests_mapHead split, List.map_cons, List.map_cons, same]

end Map

/-- Behind a first request the queue can be advanced before or after a request is
added. -/
theorem advance_enqueue {q : RequestQueue} {head : Request} {rest : List Request}
    (first : q.requests = head :: rest) (request : Request) :
    (q.enqueue request).advance = q.advance.enqueue request := by
  obtain ⟨nextSequenceId, requests⟩ := q
  subst first
  cases rest with
  | nil => simp [enqueue, advance]
  | cons next rest => simp [enqueue, advance]

theorem enqueue_of_cons {q : RequestQueue} {head : Request} {rest : List Request}
    (first : q.requests = head :: rest) (request : Request) :
    q.enqueue request = { q with requests := q.requests ++ [request] } := by
  rw [enqueue, if_neg (by rw [first]; exact List.cons_ne_nil _ _)]

/-- Behind a first request new requests go to the end of the queue. -/
theorem foldl_enqueue_of_cons {q : RequestQueue} {head : Request} {rest : List Request}
    (first : q.requests = head :: rest) (requests : List Request) :
    requests.foldl enqueue q = { q with requests := q.requests ++ requests } := by
  induction requests generalizing q rest with
  | nil => simp
  | cons request more ih =>
    rw [List.foldl_cons, enqueue_of_cons first]
    have next : ({ q with requests := q.requests ++ [request] } : RequestQueue).requests =
        head :: (rest ++ [request]) := by rw [first]; rfl
    rw [ih next]
    simp

theorem advance_foldl_enqueue {q : RequestQueue} {head : Request} {rest : List Request}
    (first : q.requests = head :: rest) (requests : List Request) :
    (requests.foldl enqueue q).advance = requests.foldl enqueue q.advance := by
  induction requests generalizing q rest with
  | nil => rfl
  | cons request more ih =>
    have next : (q.enqueue request).requests = head :: (rest ++ [request]) := by
      rw [enqueue_of_cons first, first]
      rfl
    rw [List.foldl_cons, List.foldl_cons, ih next, advance_enqueue first]

end RequestQueue

end Libmdr
