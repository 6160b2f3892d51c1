import Libmdr.Lib.TailList
import Libmdr.PacketConn.Integrity

/-!
# The representation invariant

What holds of a packet connection between two calls, whatever was called before and
whatever the callbacks did. The pointers are followed along the moves of a call, in the
order of the C code: a request that gets no answer stays linked while its error callback
runs. What is said about the requests themselves comes from the session.
-/

namespace Libmdr
set_option autoImplicit false

/-! ## The pointers -/

namespace RequestList

/-- The pointers are those of a list of requests, and no other request is allocated. -/
structure Represents (list : RequestList) (handles : List Handle) : Prop where
  nodes : LinkedList.Segment list.next list.request handles none
  tail : list.requestQueueTail = handles.getLast?
  allocated : ∀ handle ∈ list.next, handle ∈ handles

variable {list : RequestList} {handles : List Handle}

/-- A list of requests is one with a pointer to its last node. -/
def tailList (list : RequestList) : LinkedList.TailList Handle :=
  { first := list.request, tail := list.requestQueueTail, next := list.next }

theorem Represents.tailList (represents : list.Represents handles) :
    list.tailList.Represents handles :=
  ⟨represents.nodes, represents.tail, represents.allocated⟩

/-- The pointer that is tested is the one to the first request. -/
theorem append_tailList (list : RequestList) (handle : Handle) :
    list.tailList.append (list.request = none) handle =
      (list.enqueue handle).map RequestList.tailList := by
  unfold LinkedList.TailList.append RequestList.enqueue RequestList.tailList
  cases list.request with
  | none => rfl
  | some first =>
    cases list.requestQueueTail with
    | none => rfl
    | some last =>
      simp only [reduceCtorEq, decide_false, Bool.false_eq_true, if_false, Option.bind_eq_bind,
        Option.bind_some]
      split <;> rfl

theorem advance_of_first {handle : Handle} {next : Option Handle}
    (isFirst : list.request = some handle) (read : list.next.lookup handle = some next) :
    list.advance = some { request := next
                          requestQueueTail := if next = none then none else list.requestQueueTail
                          next := list.next.erase handle } := by
  simp only [RequestList.advance, isFirst, read, Option.bind_eq_bind, Option.bind_some]
  rfl

/-- A new request becomes the last one. -/
theorem Represents.enqueue (represents : list.Represents handles) {handle : Handle}
    (fresh : handle ∉ handles) :
    ∃ list', list.enqueue handle = some list' ∧ list'.Represents (handles ++ [handle]) := by
  have tested : decide (list.request = none) = true ↔ handles = [] := by
    rw [decide_eq_true_eq]
    exact represents.tailList.first_eq_none
  obtain ⟨tails, appended, nodes, tail, allocated⟩ := represents.tailList.append tested fresh
  rw [append_tailList, Option.map_eq_some_iff] at appended
  obtain ⟨list', enqueued, rfl⟩ := appended
  exact ⟨list', enqueued, nodes, tail, allocated⟩

/-- The first request is freed. -/
theorem Represents.advance (represents : list.Represents handles) :
    ∃ list', list.advance = some list' ∧ list'.Represents handles.tail := by
  cases handles with
  | nil =>
    have empty : list.request = none := represents.nodes.head
    exact ⟨list, by rw [RequestList.advance, empty], represents⟩
  | cons handle rest =>
    obtain ⟨nodes, tail, allocated⟩ := represents.tailList.unlink_first
    have read := represents.tailList.lookup []
    exact ⟨_, advance_of_first represents.nodes.head read, nodes, tail, allocated⟩

/-- What the pointers say: from `request` on, `next` leads to distinct requests and then
to NULL; the last of them is `request_queue_tail`, which is NULL when there is none. -/
structure Acyclic (list : RequestList) (handles : List Handle) : Prop where
  nodes : LinkedList.Segment list.next list.request handles none
  distinct : handles.Nodup
  tail : list.requestQueueTail = handles.getLast?
  null : list.requestQueueTail = none ↔ list.request = none

theorem Represents.acyclic (represents : list.Represents handles) : list.Acyclic handles := by
  obtain ⟨nodes, distinct, tail, null⟩ := represents.tailList.acyclic
  exact ⟨nodes, distinct, tail, null⟩

end RequestList

/-! ## Moves -/

/-- The pointers are those of the queue, and the address of the next request is new. -/
structure State.Linked (s : State) : Prop where
  represents : ∃ list, s.conn.requestList = some list ∧ list.Represents s.conn.queue.handles
  fresh : ∀ handle ∈ s.conn.queue.handles, handle < s.nextHandle

theorem RequestQueue.handles_enqueue (q : RequestQueue) (request : Request) :
    (q.enqueue request).handles = q.handles ++ [request.handle] :=
  map_enqueue (fun _ _ => rfl) q request

theorem RequestQueue.handles_advance (q : RequestQueue) : q.advance.handles = q.handles.tail :=
  map_advance (fun _ _ => rfl) q

namespace State.Linked

variable {env : Env} {now : Timespec} {s s' : State}

theorem of_same (linked : s.Linked) (list : s'.conn.requestList = s.conn.requestList)
    (handles : s'.conn.queue.handles = s.conn.queue.handles) (mono : s.nextHandle ≤ s'.nextHandle) :
    s'.Linked where
  represents := by
    rw [list, handles]
    exact linked.represents
  fresh := by
    rw [handles]
    exact fun handle isIn => Nat.lt_of_lt_of_le (linked.fresh handle isIn) mono

theorem advanceFrameQueue (linked : s.Linked) : s.advanceFrameQueue.Linked where
  represents := by
    obtain ⟨list, isList, represents⟩ := linked.represents
    obtain ⟨list', advanced, represents'⟩ := represents.advance
    refine ⟨list', ?_, ?_⟩
    · rw [State.advanceFrameQueue, State.relink_requestList, State.setQueue_requestList, isList]
      exact advanced
    · rw [State.advanceFrameQueue_queue, RequestQueue.handles_advance]
      exact represents'
  fresh := by
    rw [State.advanceFrameQueue_queue, RequestQueue.handles_advance]
    exact fun handle isIn => linked.fresh handle (List.mem_of_mem_tail isIn)

theorem makeRequest {packet : Packet} {spec : ReplySpecifier} {callbacks : Callbacks}
    {handle : Option Handle} (linked : s.Linked)
    (run : Libmdr.makeRequest env packet spec callbacks s = some (handle, s')) : s'.Linked := by
  simp only [Libmdr.makeRequest, Option.bind_eq_bind, Option.bind_eq_some_iff] at run
  obtain ⟨⟨frame, host⟩, made, run⟩ := run
  cases frame with
  | none =>
    cases run
    exact linked.of_same rfl rfl (Nat.le_refl _)
  | some frame =>
    dsimp only at run
    split at run
    · cases run
      exact linked.of_same rfl rfl (Nat.le_refl _)
    · cases run
      obtain ⟨list, isList, represents⟩ := linked.represents
      have new : s.nextHandle ∉ s.conn.queue.handles :=
        fun isIn => absurd (linked.fresh _ isIn) (Nat.lt_irrefl _)
      obtain ⟨list', enqueued, represents'⟩ := represents.enqueue new
      constructor
      · refine ⟨list', ?_, ?_⟩
        · rw [State.relink_requestList, State.setQueue_requestList, State.record_conn, isList]
          exact enqueued
        · rw [State.relink_queue, State.setQueue_queue, RequestQueue.handles_enqueue]
          exact represents'
      · rw [State.relink_queue, State.setQueue_queue, RequestQueue.handles_enqueue]
        intro other isIn
        rcases List.mem_append.mp isIn with old | isNew
        · exact Nat.lt_succ_of_lt (linked.fresh other old)
        · rw [List.mem_singleton.mp isNew]
          exact Nat.lt_succ_self _

theorem userCall {c : UserCall} (linked : s.Linked) (run : Libmdr.userCall env s c = some s') :
    s'.Linked := by
  cases c with
  | makeRequest packet spec callbacks =>
    obtain ⟨⟨handle, t⟩, made, rfl⟩ := Option.map_eq_some_iff.mp run
    exact linked.makeRequest made
  | subscribe spec result userData =>
    cases run
    unfold subscribe
    split
    · exact linked.of_same rfl rfl (Nat.le_refl _)
    · exact linked.of_same rfl rfl (Nat.le_succ _)
  | removeSubscription handle =>
    cases run
    exact linked.of_same rfl rfl (Nat.le_refl _)

theorem act (linked : s.Linked) (act : Act env now s s') : s'.Linked := by
  cases act with
  | read frame fconn host run => exact linked.of_same rfl rfl (Nat.le_refl _)
  | move move =>
    cases move with
    | host | record | counted => exact linked.of_same rfl rfl (Nat.le_refl _)
    | queue queue same => exact linked.of_same rfl same (Nat.le_refl _)
    | advance => exact linked.advanceFrameQueue
    | user c run => exact linked.userCall run

theorem acts (linked : s.Linked) (acts : Acts env now s s') : s'.Linked := by
  induction acts with
  | refl => exact linked
  | tail _ last ih => exact ih.act last

theorem call {c : Call} (linked : s.Linked) (run : Libmdr.call env s c = some s') : s'.Linked := by
  cases c with
  | user c => exact linked.userCall run
  | process now readable writable =>
    obtain ⟨⟨result, t⟩, processed, rfl⟩ := Option.map_eq_some_iff.mp run
    exact linked.acts (process_acts processed)

theorem run {calls : List Call} (linked : s.Linked) (ran : Libmdr.run env calls s = some s') :
    s'.Linked :=
  Trace.foldlM_invariant State.Linked (fun _ _ _ first linked => linked.call first) ran linked

end State.Linked

theorem linked_start (fconn : FrameConn) (host : Host) : (State.start fconn host).Linked where
  represents := ⟨_, rfl, .nil none, rfl, fun _ isIn => absurd isIn (AList.notMem_empty _)⟩
  fresh := fun _ isIn => by cases isIn

/-! ## The invariant -/

/-- The representation invariant of a packet connection between two calls. -/
structure State.Coherent (s : State) : Prop where
  acyclic : ∃ list, s.conn.requestList = some list ∧ list.Acyclic s.conn.queue.handles
  onlyHead : ∀ request ∈ s.conn.queue.requests.tail, request.attempts = 0 ∧ request.acked = false
  attempts : ∀ request ∈ s.conn.queue.requests, request.attempts ≤ packetMaxTries
  acked : ∀ head rest, s.conn.queue.requests = head :: rest → head.acked = true →
    head.expectedReply.onlyAck = false
  bit : ∀ head rest, s.conn.queue.requests = head :: rest →
    head.frame.sequenceId = 0 ∨ head.frame.sequenceId = 1
  next : ∀ head rest, s.conn.queue.requests = head :: rest →
    (s.conn.queue.nextSequenceId.toNat : Int) = 1 - head.frame.sequenceId.toNat
  checksum : ∀ head rest, s.conn.queue.requests = head :: rest →
    head.frame.checksum = some head.frame.computeChecksum

/-- What holds of the queue of an open session. -/
theorem valid_run {t u : Session} {events : List Event} (run : Trace.Run Session.Step t events u)
    (start : t.queue.Valid) (isOpen : u.closing = false) : u.queue.Valid := by
  refine Trace.Run.invariant (fun _ t => t.closing = false → t.queue.Valid) (fun _ => start) ?_ run
    isOpen
  exact fun _ t _ t' valid step isOpen => step.valid isOpen (valid (step.was_open isOpen))

/-- **The representation invariant.** It holds in every state that calls of the public
interface reach, with any callbacks, any host and any clock. -/
theorem run_coherent {env : Env} {calls : List Call} {fconn : FrameConn} {host : Host} {s : State}
    (ran : run env calls (State.start fconn host) = some s) : s.Coherent := by
  obtain ⟨records, recorded⟩ := run_log ran
  have owes : ((State.start fconn host).session false).OwesEndings := fun _ isIn => by cases isIn
  have valid : s.conn.queue.Valid := valid_run records.run (valid_start fconn) rfl
  have sound : s.conn.queue.Sound :=
    (sound_run records.run (sound_start fconn) owes rfl recorded.sourced).1
  have bit (head : Request) (rest : List Request) (first : s.conn.queue.requests = head :: rest) :
      head.frame.sequenceId = 0 ∨ head.frame.sequenceId = 1 := by
    rw [← RequestQueue.headId_cons first]
    exact valid.bit
  constructor
  case acyclic =>
    obtain ⟨list, isList, represents⟩ := ((linked_start fconn host).run ran).represents
    exact ⟨list, isList, represents.acyclic⟩
  case onlyHead => exact valid.fresh
  case attempts => exact fun request isIn => (sound.all request isIn).attempts
  case acked =>
    intro head rest first
    exact (sound.all head (RequestQueue.head_mem first)).acked
  case bit => exact bit
  case next =>
    intro head rest first
    rw [valid.next head rest first, lnot_toNat (bit head rest first)]
  case checksum => exact fun head rest first => (sound.head head rest first).checksum

/-- Two requests, the first one sent. -/
theorem run_coherent_power_off :
    ∃ s, run Env.idle [.user getProtocolInfo, .user powerOff, .process ⟨0, 0⟩ false true]
        (State.start .fresh (.listing [] [.wrote 100])) = some s ∧
      s.conn.queue.requests.length = 2 ∧ s.Coherent := by
  obtain ⟨s, ran, two⟩ := (Option.any_eq_true _ _).mp (show (run Env.idle
    [.user getProtocolInfo, .user powerOff, .process ⟨0, 0⟩ false true]
    (State.start .fresh (.listing [] [.wrote 100]))).any
    (fun s => decide (s.conn.queue.requests.length = 2)) = true by decide +kernel)
  exact ⟨s, ran, of_decide_eq_true two, run_coherent ran⟩

end Libmdr
