import Libmdr.PacketConn.Refinement

/-!
# Every request is completed once

A request leaves the queue on four paths: its ACK, its reply, its last timeout
and the closing of the connection. On each the queue loses its first request and
one callback of that request is owed, so at any time the accepted requests are
those that are finished, in order, and then those that wait.
-/

namespace Libmdr
set_option autoImplicit false

/-- The requests that ended and how, in order. -/
def finishedIn (events : List Event) : List (Request × Outcome) :=
  events.filterMap fun
    | .finished request outcome => some (request, outcome)
    | _ => none

/-- The calls of request callbacks, in order. -/
def callsIn (events : List Event) : List Called :=
  events.filterMap fun
    | .called call => some call
    | _ => none

@[simp] theorem finishedIn_append (xs ys : List Event) :
    finishedIn (xs ++ ys) = finishedIn xs ++ finishedIn ys := List.filterMap_append

@[simp] theorem callsIn_append (xs ys : List Event) :
    callsIn (xs ++ ys) = callsIn xs ++ callsIn ys := List.filterMap_append

@[simp] theorem callsIn_map_accepted (requests : List Request) :
    callsIn (requests.map .accepted) = [] := by
  simp [callsIn, List.filterMap_map]

@[simp] theorem finishedIn_ending (request : Request) (outcome : Outcome) :
    finishedIn (request.ending outcome) = [(request, outcome)] := by
  rw [Request.ending]
  cases request.callOf outcome <;> rfl

@[simp] theorem callsIn_ending (request : Request) (outcome : Outcome) :
    callsIn (request.ending outcome) = (request.callOf outcome).toList := by
  rw [Request.ending]
  cases request.callOf outcome <;> rfl

/-- What of a request stays the same while it is in the queue. -/
def Request.key (request : Request) : Handle × Callbacks := (request.handle, request.callbacks)

theorem Request.callOf_handle {request : Request} {outcome : Outcome} {call : Called}
    (isCall : request.callOf outcome = some call) : call.handle = request.handle := by
  cases outcome <;> obtain ⟨fn, -, rfl⟩ := Option.map_eq_some_iff.mp isCall <;> rfl

/-! ## The keys of the queue -/

namespace RequestQueue

/-- The keys of the requests that wait. -/
def keys (q : RequestQueue) : List (Handle × Callbacks) := q.requests.map Request.key

theorem keys_enqueue (q : RequestQueue) (request : Request) :
    (q.enqueue request).keys = q.keys ++ [request.key] :=
  map_enqueue (fun _ _ => rfl) q request

theorem keys_advance (q : RequestQueue) : q.advance.keys = q.keys.tail :=
  map_advance (fun _ _ => rfl) q

theorem keys_mapHead (q : RequestQueue) {f : Request → Request}
    (same : ∀ request, (f request).key = request.key) : (q.mapHead f).keys = q.keys :=
  map_mapHead same q

theorem keys_cons {q : RequestQueue} {head : Request} {rest : List Request}
    (first : q.requests = head :: rest) : q.keys = head.key :: rest.map Request.key := by
  rw [keys, first]
  rfl

end RequestQueue

theorem Session.keys_add (q : RequestQueue) (closing : Bool) (request : Request) :
    (Session.add q closing request).keys = q.keys ++ [request.key] := by
  cases closing with
  | false => exact q.keys_enqueue request
  | true => rw [Session.add, if_pos rfl, RequestQueue.keys, RequestQueue.keys, List.map_append]; rfl

/-! ## The invariant of a run -/

/-- The accepted requests are the finished ones and those that wait; what is owed
counts as recorded. -/
structure Accounted (past : List Event) (t : Session) : Prop where
  order : (acceptedIn (past ++ t.owed)).map Request.key =
    (finishedIn (past ++ t.owed)).map (fun done => done.1.key) ++ t.queue.keys
  calls : callsIn (past ++ t.owed) =
    (finishedIn (past ++ t.owed)).filterMap fun done => done.1.callOf done.2

/-- An event after which nothing is owed, that neither accepts nor ends a request. -/
theorem Accounted.quiet {past : List Event} {q q' : RequestQueue} {closing closing' : Bool}
    {event : Event} (accounted : Accounted past ⟨q, [], closing⟩) (owed : List Event)
    (keys : q'.keys = q.keys) (accepts : acceptedIn (event :: owed) = [])
    (finishes : finishedIn (event :: owed) = []) (calls : callsIn (event :: owed) = []) :
    Accounted (past ++ [event]) ⟨q', owed, closing'⟩ := by
  obtain ⟨order, called⟩ := accounted
  simp only [List.append_nil] at order called
  constructor
  · simp only [List.append_assoc, List.singleton_append, acceptedIn_append, finishedIn_append,
      accepts, finishes, List.append_nil, keys]
    exact order
  · simp only [List.append_assoc, List.singleton_append, callsIn_append, finishedIn_append, calls,
      finishes, List.append_nil]
    exact called

/-- An event that ends the first request. -/
theorem Accounted.ends {past : List Event} {q q' : RequestQueue} {closing closing' : Bool}
    {event : Event} {head : Request} {rest : List Request} (outcome : Outcome)
    (accounted : Accounted past ⟨q, [], closing⟩) (first : q.requests = head :: rest)
    (keys : q'.keys = q.keys.tail) (accepts : acceptedIn [event] = [])
    (finishes : finishedIn [event] = []) (calls : callsIn [event] = []) :
    Accounted (past ++ [event]) ⟨q', head.ending outcome, closing'⟩ := by
  obtain ⟨order, called⟩ := accounted
  simp only [List.append_nil, RequestQueue.keys_cons first] at order called
  rw [RequestQueue.keys_cons first, List.tail_cons] at keys
  constructor
  · simp only [acceptedIn_append, finishedIn_append, accepts, finishes, List.append_nil,
      acceptedIn_ending, finishedIn_ending, List.map_append, keys, List.append_assoc]
    exact order
  · simp only [callsIn_append, finishedIn_append, calls, finishes, List.append_nil,
      callsIn_ending, finishedIn_ending, List.filterMap_append, called]
    cases ended : head.callOf outcome <;> simp [ended]

theorem Accounted.step {past : List Event} {t t' : Session} {event : Event}
    (accounted : Accounted past t) (step : Session.Step t event t') :
    Accounted (past ++ [event]) t' := by
  cases step with
  | owed q event rest closing =>
    obtain ⟨order, called⟩ := accounted
    constructor
    · simpa using order
    · simpa using called
  | accepted q request closing unsent waiting =>
    obtain ⟨order, called⟩ := accounted
    simp only [List.append_nil] at order called
    constructor
    · simp only [List.append_nil, acceptedIn_append, finishedIn_append, List.map_append, order,
        Session.keys_add, ← List.append_assoc]
      simp [acceptedIn, finishedIn]
    · simp only [List.append_nil, callsIn_append, finishedIn_append, called,
        List.filterMap_append]
      simp [callsIn, finishedIn]
  | wrote q head rest result now first due =>
    refine accounted.quiet [] ?_ rfl rfl rfl
    split
    · rfl
    · exact q.keys_mapHead fun _ => rfl
  | expired q head rest now first sent late spent =>
    refine accounted.ends _ first ?_ rfl rfl rfl
    rw [RequestQueue.keys_advance]
    cases head.acked <;> rfl
  | ackedOnly q head rest frame now first isAck isMatch only =>
    exact accounted.ends _ first q.keys_advance rfl rfl rfl
  | ackedWaits q head rest frame now first isAck isMatch waits =>
    exact accounted.quiet _ (q.keys_mapHead fun _ => rfl) rfl rfl rfl
  | ignored q frame now other => exact accounted.quiet [] rfl rfl rfl rfl
  | replied q head rest packet first isMatch =>
    exact accounted.ends _ first q.keys_advance rfl rfl rfl
  | unexpected q packet other => exact accounted.quiet [] rfl rfl rfl rfl
  | closing q head rest closing first =>
    refine accounted.ends _ first ?_ rfl rfl rfl
    rw [RequestQueue.keys_cons first]
    rfl
  | wroteAck q frame result => exact accounted.quiet [] rfl rfl rfl rfl
  | notified q subscription packet => exact accounted.quiet [] rfl rfl rfl rfl

/-- The invariant at the end of a call, with the states around it. -/
theorem Records.accounted {s s' : State} {closing closing' : Bool} {past events : List Event}
    (records : Records s closing events s' closing')
    (accounted : Accounted past (s.session closing)) :
    Accounted (past ++ events) (s'.session closing') := by
  refine Trace.Run.invariant (fun new t => Accounted (past ++ new) t) ?_ ?_ records.run
  · rwa [List.append_nil]
  · intro new t event t' now step
    rw [← List.append_assoc]
    exact now.step step

/-! ## What the callbacks of a request see -/

/-- The calls of one request's callbacks. -/
def callsTo (log : List Event) (handle : Handle) : List Called :=
  (callsIn log).filter fun call => call.handle = handle

theorem filter_calls_of_not_mem {done : List (Request × Outcome)} {handle : Handle}
    (absent : ∀ d ∈ done, d.1.handle ≠ handle) :
    (done.filterMap fun d => d.1.callOf d.2).filter (fun call => call.handle = handle) = [] := by
  rw [List.filter_eq_nil_iff]
  intro call isCall
  obtain ⟨d, isIn, made⟩ := List.mem_filterMap.mp isCall
  rw [decide_eq_true_eq, Request.callOf_handle made]
  exact absent d isIn

/-- With distinct handles each request is called for its own outcome only. -/
theorem filter_calls {done : List (Request × Outcome)} {d : Request × Outcome}
    (distinct : (done.map fun d => d.1.handle).Nodup) (isIn : d ∈ done) :
    (done.filterMap fun d => d.1.callOf d.2).filter (fun call => call.handle = d.1.handle) =
      (d.1.callOf d.2).toList := by
  obtain ⟨before, after, rfl⟩ := List.append_of_mem isIn
  rw [List.map_append, List.map_cons, List.nodup_append, List.nodup_cons] at distinct
  obtain ⟨-, ⟨notAfter, -⟩, apart⟩ := distinct
  have front : ∀ e ∈ before, e.1.handle ≠ d.1.handle := fun e early =>
    apart _ (List.mem_map_of_mem early) _ List.mem_cons_self
  have back : ∀ e ∈ after, e.1.handle ≠ d.1.handle := by
    intro e late same
    exact notAfter (same ▸ List.mem_map.mpr ⟨e, late, rfl⟩)
  have here : ([d].filterMap fun d => d.1.callOf d.2).filter
      (fun call => call.handle = d.1.handle) = (d.1.callOf d.2).toList := by
    cases made : d.1.callOf d.2 with
    | none => simp [made]
    | some call => simp [made, Request.callOf_handle made]
  rw [← List.singleton_append, List.filterMap_append, List.filterMap_append, List.filter_append,
    List.filter_append, filter_calls_of_not_mem front, filter_calls_of_not_mem back, here]
  simp

/-- What a record says of the requests, with those that still wait. -/
structure Served (log : List Event) (waiting : List Request) : Prop where
  /-- Requests end in the order in which they were accepted; the others wait. -/
  order : (acceptedIn log).map Request.key =
    (finishedIn log).map (fun done => done.1.key) ++ waiting.map Request.key
  distinct : ((acceptedIn log).map Request.handle).Nodup
  /-- The one callback that fits the outcome was called, once, if it is not NULL. -/
  ended : ∀ done ∈ finishedIn log, callsTo log done.1.handle = (done.1.callOf done.2).toList
  waits : ∀ request ∈ waiting, callsTo log request.handle = []
  /-- Callbacks are called in the order in which the requests were accepted. -/
  inOrder : ((callsIn log).map Called.handle).Sublist ((acceptedIn log).map Request.handle)

theorem calls_sublist (done : List (Request × Outcome)) :
    ((done.filterMap fun d => d.1.callOf d.2).map Called.handle).Sublist
      (done.map fun d => d.1.handle) := by
  induction done with
  | nil => exact .slnil
  | cons d rest ih =>
    cases made : d.1.callOf d.2 with
    | none => simpa [made] using ih.trans (List.sublist_cons_self _ _)
    | some call => simpa [made, Request.callOf_handle made] using ih

theorem Accounted.served {log : List Event} {q : RequestQueue} {closing : Bool}
    (accounted : Accounted log ⟨q, [], closing⟩)
    (increasing : (acceptedIn log).Pairwise fun a b => a.handle < b.handle) :
    Served log q.requests := by
  obtain ⟨order, calls⟩ := accounted
  simp only [List.append_nil] at order calls
  have handles : (acceptedIn log).map Request.handle =
      (finishedIn log).map (fun done => done.1.handle) ++ q.requests.map Request.handle := by
    have firsts := congrArg (List.map Prod.fst) order
    simpa [RequestQueue.keys, Request.key, Function.comp_def] using firsts
  have distinct : ((acceptedIn log).map Request.handle).Nodup := by
    rw [List.Nodup, List.pairwise_map]
    exact increasing.imp fun less => Nat.ne_of_lt less
  have both := distinct
  rw [handles, List.nodup_append] at both
  refine ⟨order, distinct, ?_, ?_, ?_⟩
  · intro done isIn
    rw [callsTo, calls]
    exact filter_calls both.1 isIn
  · intro request isIn
    rw [callsTo, calls]
    refine filter_calls_of_not_mem fun done ended => ?_
    exact both.2.2 _ (List.mem_map.mpr ⟨done, ended, rfl⟩) _
      (List.mem_map_of_mem isIn)
  · rw [calls, handles]
    exact (calls_sublist _).trans (List.sublist_append_left _ _)

/-- When no request waits, each accepted request was called for one outcome. -/
theorem Served.all {log : List Event} (served : Served log []) {request : Request}
    (accepted : request ∈ acceptedIn log) :
    ∃ outcome, callsTo log request.handle = (request.callOf outcome).toList := by
  have isIn : request.key ∈ (acceptedIn log).map Request.key := List.mem_map_of_mem accepted
  rw [served.order, List.map_nil, List.append_nil] at isIn
  obtain ⟨done, ended, same⟩ := List.mem_map.mp isIn
  have handle : done.1.handle = request.handle := congrArg Prod.fst same
  have callbacks : done.1.callbacks = request.callbacks := congrArg Prod.snd same
  refine ⟨done.2, ?_⟩
  rw [← handle, served.ended done ended]
  cases done.2 <;> simp only [Request.callOf, handle, callbacks]

/-! ## Closing returns -/

/-- From the `k`-th callback on user code makes no request. -/
def Env.QuietFrom (env : Env) (k : Nat) : Prop :=
  ∀ j, k ≤ j → ∀ c ∈ env.script j, ∀ packet spec callbacks,
    c ≠ .makeRequest packet spec callbacks

/-- User code that makes no request returns and leaves the queue alone. -/
theorem userCalls_quiet {env : Env} {calls : List UserCall} (s : State)
    (quiet : ∀ c ∈ calls, ∀ packet spec callbacks, c ≠ .makeRequest packet spec callbacks) :
    ∃ s', calls.foldlM (userCall env) s = some s' ∧ s'.conn.queue = s.conn.queue ∧
      s'.calls = s.calls := by
  induction calls generalizing s with
  | nil => exact ⟨s, rfl, rfl, rfl⟩
  | cons c rest ih =>
    have one : ∃ t, userCall env s c = some t ∧ t.conn.queue = s.conn.queue ∧
        t.calls = s.calls := by
      cases c with
      | makeRequest packet spec callbacks => exact absurd rfl (quiet _ List.mem_cons_self _ _ _)
      | subscribe spec result userData =>
        refine ⟨_, rfl, ?_⟩
        unfold subscribe
        split <;> exact ⟨rfl, rfl⟩
      | removeSubscription handle => exact ⟨_, rfl, rfl, rfl⟩
    obtain ⟨t, first, queue, calls⟩ := one
    obtain ⟨s', later, queue', calls'⟩ := ih t fun d isIn => quiet d (List.mem_cons_of_mem _ isIn)
    refine ⟨s', ?_, queue'.trans queue, calls'.trans calls⟩
    rw [List.foldlM_cons, first]
    exact later

theorem callError_quiet {env : Env} (request : Request) (e : Errno) {s : State}
    (quiet : env.QuietFrom s.calls) :
    ∃ s', callError env request e s = some s' ∧ s'.conn.queue = s.conn.queue ∧
      s.calls ≤ s'.calls := by
  unfold callError
  split
  · exact ⟨s, rfl, rfl, Nat.le_refl _⟩
  · obtain ⟨s', ran, queue, calls⟩ := userCalls_quiet _ (quiet s.calls (Nat.le_refl _))
    exact ⟨s', ran, queue, by rw [calls]; exact Nat.le_succ _⟩

theorem freeRequests_returns {env : Env} {rounds : Nat} {s : State}
    (quiet : env.QuietFrom s.calls) (enough : s.conn.queue.requests.length ≤ rounds) :
    (freeRequests env rounds s).isSome := by
  induction rounds generalizing s with
  | zero =>
    rw [freeRequests_nil _ (List.eq_nil_of_length_eq_zero (Nat.le_zero.mp enough))]
    rfl
  | succ rounds ih =>
    cases waiting : s.conn.queue.requests with
    | nil =>
      rw [freeRequests_nil _ waiting]
      rfl
    | cons head rest =>
      have quietNow : env.QuietFrom (s.record [.closing, .finished head .closed]).calls := quiet
      obtain ⟨t, called, queue, calls⟩ := callError_quiet head mdrEClosed quietNow
      rw [freeRequests_cons rounds waiting, called, Option.bind_some]
      refine ih (fun j later => quiet j (Nat.le_trans calls later)) ?_
      rw [State.freeFirst_requests, queue, State.record_conn]
      rw [waiting] at enough ⊢
      exact Nat.le_of_succ_le_succ enough

/-! ## Runs -/

theorem accounted_start (fconn : FrameConn) (host : Host) :
    Accounted [] ((State.start fconn host).session false) := ⟨rfl, rfl⟩

theorem Records.served {fconn : FrameConn} {host : Host} {s : State} {closing : Bool}
    (records : Records (State.start fconn host) false s.log s closing) :
    Served s.log s.conn.queue.requests :=
  (records.accounted (accounted_start fconn host)).served records.numbered.increasing

/-- **Every accepted request is completed once, in order.** In any run the accepted
requests are those that ended, in order, and those in the queue; a request that
ended had the callback of its outcome called exactly once, and no other of its
callbacks. Closing the connection ends the rest, and it returns unless its
callbacks keep adding requests. -/
theorem every_request_completes_once {env : Env} {calls : List Call} {fconn : FrameConn}
    {host : Host} {s : State} (ran : run env calls (State.start fconn host) = some s) :
    Served s.log s.conn.queue.requests ∧
      (∀ s', close env s = some s' → Served s'.log [] ∧
        ∀ request ∈ acceptedIn s'.log, ∃ outcome,
          callsTo s'.log request.handle = (request.callOf outcome).toList) ∧
      (env.QuietFrom s.calls → s.conn.queue.requests.length ≤ env.limit →
        (close env s).isSome) := by
  obtain ⟨events, records⟩ := run_records ran
  have log : s.log = events := records.log
  have now := records.accounted (accounted_start fconn host)
  refine ⟨?_, ?_, ?_⟩
  · rw [log]
    exact now.served records.numbered.increasing
  · intro s' closed
    obtain ⟨more, closing, later, empty⟩ := close_records closed
    have whole := records.trans later
    have log' : s'.log = events ++ more := whole.log
    have ended := (later.accounted now).served whole.numbered.increasing
    rw [empty] at ended
    rw [log']
    exact ⟨ended, fun request accepted => ended.all accepted⟩
  · intro quiet enough
    have freed := freeRequests_returns quiet enough
    obtain ⟨t, freed⟩ := Option.isSome_iff_exists.mp freed
    simp [close, freed]

/-- Two requests, one of them ended by its ACK and the other by closing. -/
theorem power_off_twice_completes_once :
    ∃ s, run Env.idle [.user powerOff, .user powerOff, .process ⟨0, 0⟩ true true]
        (State.start .fresh (.listing [.data [0x3e, 1, 1, 0, 0, 0, 0, 2, 0x3c]] [.wrote 100])) =
        some s ∧
      Served s.log s.conn.queue.requests ∧
      (∀ s', close Env.idle s = some s' → Served s'.log [] ∧
        ∀ request ∈ acceptedIn s'.log, ∃ outcome,
          callsTo s'.log request.handle = (request.callOf outcome).toList) ∧
      (close Env.idle s).isSome := by
  obtain ⟨s, ran, few⟩ := (Option.any_eq_true _ _).mp (show (run Env.idle
    [.user powerOff, .user powerOff, .process ⟨0, 0⟩ true true] (State.start .fresh
      (.listing [.data [0x3e, 1, 1, 0, 0, 0, 0, 2, 0x3c]] [.wrote 100]))).any
      (fun s => s.conn.queue.requests.length = 1) = true by decide +kernel)
  obtain ⟨served, closed, returns⟩ := every_request_completes_once ran
  refine ⟨s, ran, served, closed, returns (fun _ _ _ isIn => by cases isIn) ?_⟩
  rw [of_decide_eq_true few]
  decide

end Libmdr
