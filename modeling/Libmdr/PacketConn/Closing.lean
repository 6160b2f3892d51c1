import Libmdr.PacketConn.Scripted

/-!
# Closing while callbacks make requests

The loop that frees the requests runs their error callbacks, and a request that a callback makes
goes behind the last one, where the loop comes to it. Each callback takes away one request that has
an error callback and adds those that it makes, so the loop is done when the callbacks that have
run are as many as the requests with an error callback, old and new.
-/

namespace Libmdr
set_option autoImplicit false

/-- The requests that wait for an error callback. -/
def State.pendingErrors (s : State) : Nat :=
  s.conn.queue.requests.countP fun request => request.callbacks.error.isSome

/-- How many requests with an error callback the `k`-th callback makes. -/
def Env.retries (env : Env) (k : Nat) : Nat :=
  ((env.script k).filterMap UserCall.asked).countP fun asked => asked.2.error.isSome

/-- How many of them `n` callbacks make from the `k`-th on. -/
def Env.retriesFrom (env : Env) (k n : Nat) : Nat :=
  ((List.range' k n).map env.retries).sum

/-- Whatever the heap does, the connection is closed in as many rounds as it takes, and the error
callbacks of the requests that wait are called first, in order. -/
def ClosesAlways (env : Env) (s : State) : Prop :=
  ∀ heap, ∃ limit t events, close { env with heap, limit } s = some t ∧ t.log = s.log ++ events ∧
    (s.conn.queue.requests.filterMap fun request => request.callOf .closed) <+: callsIn events

/-- Some number of the callbacks that are next is not less than the requests that wait for an error
callback and those with one that these callbacks make. -/
def RetriesRunOut (env : Env) (s : State) : Prop :=
  ∃ n, s.pendingErrors + env.retriesFrom s.calls n ≤ n ∧
    ∀ k ∈ List.range' s.calls n, ∀ c ∈ env.script k, c.Encodes

section Closing

variable {env : Env} {s t : State}

theorem Env.retriesFrom_succ (env : Env) (k n : Nat) :
    env.retriesFrom k (n + 1) = env.retries k + env.retriesFrom (k + 1) n := by
  rw [Env.retriesFrom, List.range'_succ, List.map_cons, List.sum_cons]
  rfl

/-! ## One request -/

/-- What a round does: the requests that the error callback makes go behind the others. -/
structure Frees (env : Env) (head : Request) (rest : List Request) (s t : State) : Prop where
  calls : t.calls = s.calls + if head.callbacks.error.isSome then 1 else 0
  queue : ∃ new : List Request, t.conn.queue.requests = rest ++ new ∧
    t.log = s.log ++ .closing :: (head.ending .closed ++ new.map .accepted) ∧
    env.Accepts (new.map Request.asked)
      (if head.callbacks.error.isSome then (env.script s.calls).filterMap UserCall.asked else [])

theorem frees_of_callError {head : Request} {rest : List Request}
    (first : s.conn.queue.requests = head :: rest)
    (called : callError env head mdrEClosed (s.record [.closing, .finished head .closed]) =
      some t) : Frees env head rest s (t.freeFirst head) := by
  obtain ⟨new, added⟩ := callError_added (show head.callOf .closed = _ from rfl) called
  have behind : t.conn.queue.requests = head :: (rest ++ new) := by
    rw [added.queue]
    change (new.foldl RequestQueue.enqueue s.conn.queue).requests = _
    rw [RequestQueue.foldl_enqueue_of_cons first, first]
    rfl
  have queue : (t.freeFirst head).conn.queue.requests = rest ++ new := by
    rw [State.freeFirst_requests, behind, List.tail_cons]
  have log : t.log = s.log ++ .closing :: (head.ending .closed ++ new.map .accepted) := by
    rw [added.log]
    simp [Request.ending]
  unfold callError at called
  split at called
  · rename_i null
    cases called
    have none : new = [] := by
      have same := added.log
      simp [Request.callOf, null] at same
      exact same
    subst none
    refine ⟨?_, [], queue, log, ?_⟩
    · rw [null]
      rfl
    · rw [null]
      exact .refl _ _
  · rename_i fn set
    obtain ⟨new', log', calls, asked⟩ := userCalls_asked called
    have recorded : new.map Event.accepted = new'.map .accepted := by
      have same := log.symm.trans log'
      simpa [Request.ending, Request.callOf, set] using same
    obtain rfl : new = new' := by
      rw [← acceptedIn_map_accepted new, recorded, acceptedIn_map_accepted]
    refine ⟨?_, new, queue, log, ?_⟩
    · rw [set]
      exact calls
    · rw [set]
      exact asked

theorem callError_returns_iff {request : Request} (set : request.callbacks.error.isSome)
    (e : Errno) (s : State) :
    (callError env request e s).isSome ↔ ∀ c ∈ env.script s.calls, c.Encodes := by
  unfold callError
  split
  · rename_i null
    rw [null] at set
    cases set
  · exact userCalls_return_iff env _ _

/-- A round takes one request with an error callback away and adds those that are made. -/
theorem Frees.pending {head : Request} {rest : List Request}
    (first : s.conn.queue.requests = head :: rest) (frees : Frees env head rest s t) :
    ∃ made, t.pendingErrors + head.callbacks.error.isSome.toNat = s.pendingErrors + made ∧
      made ≤ (if head.callbacks.error.isSome then env.retries s.calls else 0) ∧
      (env.heap.NeverFails →
        made = if head.callbacks.error.isSome then env.retries s.calls else 0) := by
  obtain ⟨new, behind, -, asked⟩ := frees.queue
  have counted : new.countP (fun request => request.callbacks.error.isSome) =
      (new.map Request.asked).countP fun asked => asked.2.error.isSome := by
    rw [List.countP_map]
    rfl
  refine ⟨new.countP fun request => request.callbacks.error.isSome, ?_, ?_, fun never => ?_⟩
  · rw [State.pendingErrors, State.pendingErrors, first, behind, List.countP_append,
      List.countP_cons]
    cases head.callbacks.error <;> simp; omega
  · rw [counted]
    refine asked.sublist.countP_le.trans ?_
    split <;> exact Nat.le_refl _
  · rw [counted, asked.all never]
    split <;> rfl

/-! ## All requests -/

theorem State.pendingErrors_pos {head : Request} {rest : List Request}
    (first : s.conn.queue.requests = head :: rest) (set : head.callbacks.error.isSome) :
    0 < s.pendingErrors := by
  rw [State.pendingErrors, first]
  exact List.countP_pos_iff.mpr ⟨head, List.mem_cons_self, set⟩

/-- The limit of the rounds is for the loop over the subscriptions. -/
theorem freeRequests_limit (env : Env) (limit rounds : Nat) (s : State) :
    freeRequests { env with limit } rounds s = freeRequests env rounds s := by
  induction rounds generalizing s with
  | zero => rw [freeRequests, freeRequests]
  | succ rounds ih =>
    cases waiting : s.conn.queue.requests with
    | nil => rw [freeRequests_nil _ waiting, freeRequests_nil _ waiting]
    | cons head rest =>
      rw [freeRequests_cons rounds waiting, freeRequests_cons rounds waiting]
      exact Option.bind_congr fun t _ => ih _

/-- Requests without an error callback are freed up to the first one that has one. -/
theorem freeRequests_silent (env : Env) (s : State) :
    ∃ t k, (∀ rounds, freeRequests env (rounds + k) s = freeRequests env rounds t) ∧
      t.pendingErrors = s.pendingErrors ∧ t.calls = s.calls ∧
      (t.conn.queue.requests = [] ∨ ∃ head rest, t.conn.queue.requests = head :: rest ∧
        head.callbacks.error.isSome) := by
  induction waiting : s.conn.queue.requests generalizing s with
  | nil => exact ⟨s, 0, fun _ => rfl, rfl, rfl, .inl waiting⟩
  | cons head rest ih =>
    cases set : head.callbacks.error with
    | some fn => exact ⟨s, 0, fun _ => rfl, rfl, rfl, .inr ⟨head, rest, waiting, by rw [set]; rfl⟩⟩
    | none =>
      have called : callError env head mdrEClosed (s.record [.closing, .finished head .closed]) =
          some (s.record [.closing, .finished head .closed]) := by
        rw [callError, set]
      have frees := frees_of_callError waiting called
      obtain ⟨made, pending, few, -⟩ := frees.pending waiting
      have queue :
          ((s.record [.closing, .finished head .closed]).freeFirst head).conn.queue.requests =
            rest := by
        rw [State.freeFirst_requests, State.record_conn, waiting, List.tail_cons]
      obtain ⟨t, k, silent, pending', calls, ending⟩ := ih _ queue
      refine ⟨t, k + 1, fun rounds => ?_, ?_, ?_, ending⟩
      · rw [← Nat.add_assoc, freeRequests_cons _ waiting, called]
        exact silent rounds
      · rw [set] at pending few
        obtain rfl : made = 0 := Nat.le_zero.mp few
        exact pending'.trans pending
      · rw [calls, frees.calls, set]
        rfl

/-- The loop returns when the callbacks run out of requests to make. -/
theorem freeRequests_returns_of_runOut {n : Nat}
    (bound : s.pendingErrors + env.retriesFrom s.calls n ≤ n)
    (encodes : ∀ k ∈ List.range' s.calls n, ∀ c ∈ env.script k, c.Encodes) :
    ∃ rounds, (freeRequests env rounds s).isSome := by
  induction n generalizing s with
  | zero =>
    obtain ⟨t, k, silent, pending, -, none | ⟨head, rest, first, set⟩⟩ := freeRequests_silent env s
    · refine ⟨0 + k, ?_⟩
      rw [silent, freeRequests_nil _ none]
      rfl
    · have some_waits := State.pendingErrors_pos first set
      rw [pending] at some_waits
      exact absurd (Nat.le_trans (Nat.le_add_right _ _) bound) (Nat.not_le.mpr some_waits)
  | succ n ih =>
    obtain ⟨t, k, silent, pending, calls, none | ⟨head, rest, first, set⟩⟩ :=
      freeRequests_silent env s
    · refine ⟨0 + k, ?_⟩
      rw [silent, freeRequests_nil _ none]
      rfl
    · rw [← pending, ← calls, Env.retriesFrom_succ] at bound
      rw [← calls, List.range'_succ, List.forall_mem_cons] at encodes
      obtain ⟨now, later⟩ := encodes
      obtain ⟨u, called⟩ := Option.isSome_iff_exists.mp ((callError_returns_iff set mdrEClosed
        (t.record [.closing, .finished head .closed])).mpr now)
      have frees := frees_of_callError first called
      obtain ⟨made, balance, few, -⟩ := frees.pending first
      have next : (u.freeFirst head).calls = t.calls + 1 := by
        rw [frees.calls, if_pos set]
      rw [set] at balance few
      simp only [Bool.toNat_true, if_true] at balance few
      obtain ⟨rounds, returns⟩ := ih (s := u.freeFirst head) (by rw [next]; omega)
        (by rw [next]; exact later)
      refine ⟨rounds + 1 + k, ?_⟩
      rw [silent, freeRequests_cons rounds first, called]
      exact returns

/-- With all the memory it asks for, a loop that returns has run as many callbacks as there were
requests with one. -/
theorem runsOut_of_freeRequests (never : env.heap.NeverFails) {rounds : Nat}
    (run : freeRequests env rounds s = some t) : RetriesRunOut env s := by
  refine freeRequests_rounds (RetriesRunOut env) (fun empty => ?_) ?_ run
  · exact ⟨0, by rw [State.pendingErrors, empty]; rfl, (fun _ isIn => by cases isIn)⟩
  · intro s u head rest first called ⟨n, bound, encodes⟩
    have frees := frees_of_callError first called
    obtain ⟨made, balance, -, all⟩ := frees.pending first
    rw [all never] at balance
    rw [frees.calls] at bound encodes
    cases set : head.callbacks.error.isSome with
    | false =>
      rw [set] at balance bound encodes
      simp only [Bool.toNat_false, Bool.false_eq_true, if_false, Nat.add_zero] at balance bound
      rw [if_neg Bool.false_ne_true, Nat.add_zero] at encodes
      exact ⟨n, by omega, encodes⟩
    | true =>
      rw [set] at balance bound encodes
      simp only [Bool.toNat_true, if_true] at balance bound encodes
      refine ⟨n + 1, by rw [Env.retriesFrom_succ]; omega, ?_⟩
      rw [List.range'_succ, List.forall_mem_cons]
      have returned := Option.isSome_of_eq_some called
      have now := (callError_returns_iff set mdrEClosed _).mp returned
      exact ⟨now, encodes⟩

/-- The callbacks of the requests that wait are called before those of new ones. -/
theorem freeRequests_calls {rounds : Nat} (run : freeRequests env rounds s = some t) :
    ∃ events, t.log = s.log ++ events ∧
      (s.conn.queue.requests.filterMap fun request => request.callOf .closed) <+:
        callsIn events := by
  refine freeRequests_rounds (fun s => ∃ events, t.log = s.log ++ events ∧
    (s.conn.queue.requests.filterMap fun request => request.callOf .closed) <+: callsIn events)
    (fun empty => ?_) ?_ run
  · exact ⟨[], (List.append_nil _).symm, by rw [empty]; exact List.nil_prefix⟩
  · intro s u head rest waiting called ⟨events, later, calls⟩
    obtain ⟨new, queue, log, -⟩ := (frees_of_callError waiting called).queue
    refine ⟨.closing :: (head.ending .closed ++ new.map .accepted) ++ events, ?_, ?_⟩
    · rw [later, log, List.append_assoc]
    · rw [queue, List.filterMap_append] at calls
      have whole : callsIn (.closing :: (head.ending .closed ++ new.map .accepted) ++ events) =
          (head.callOf .closed).toList ++ callsIn events := by
        rw [callsIn_append]
        change callsIn (head.ending .closed ++ new.map .accepted) ++ _ = _
        rw [callsIn_append, callsIn_ending, callsIn_map_accepted, List.append_nil]
      have first : ((head :: rest).filterMap fun request => request.callOf .closed) =
          (head.callOf .closed).toList ++ rest.filterMap fun request => request.callOf .closed := by
        rw [List.filterMap_cons]
        cases head.callOf .closed <;> rfl
      rw [whole, waiting, first]
      exact (List.prefix_append_right_inj _).mpr ((List.prefix_append _ _).trans calls)

end Closing

/-- Among the heaps is one that never fails. -/
theorem ClosesAlways.runsOut {env : Env} {s : State} (closes : ClosesAlways env s) :
    RetriesRunOut env s := by
  obtain ⟨limit, t, events, closed, -⟩ := closes fun _ => some []
  simp only [close, Option.bind_eq_bind, Option.bind_eq_some_iff] at closed
  obtain ⟨u, freed, -⟩ := closed
  have runsOut := runsOut_of_freeRequests (fun _ => rfl) freed
  exact runsOut

/-- **The connection is closed when the error callbacks run out of requests.** As many callbacks
have to run as there are requests with one, those that wait and those that the callbacks make. -/
theorem closesAlways_iff (env : Env) (s : State) : ClosesAlways env s ↔ RetriesRunOut env s := by
  refine ⟨ClosesAlways.runsOut, ?_⟩
  rintro ⟨n, bound, encodes⟩ heap
  have freed : ∃ rounds, (freeRequests { env with heap } rounds s).isSome :=
    freeRequests_returns_of_runOut bound encodes
  obtain ⟨rounds, returns⟩ := freed
  obtain ⟨t, run⟩ := Option.isSome_iff_exists.mp returns
  obtain ⟨events, log, calls⟩ := freeRequests_calls run
  refine ⟨rounds, { t with conn := { t.conn with subscriptions := [] } }, events, ?_, log, calls⟩
  rw [close, freeRequests_limit { env with heap } rounds rounds s, run]
  rfl

/-- A client that makes its request again on every error makes as many as its callbacks run. -/
theorem retriesFrom_again (k n : Nat) : (Env.calling [getProtocolInfo]).retriesFrom k n = n := by
  induction n generalizing k with
  | zero => rfl
  | succ n ih =>
    have one : (Env.calling [getProtocolInfo]).retries k = 1 := rfl
    rw [Env.retriesFrom_succ, ih, one, Nat.add_comm]

/-- One request waits, and its error callback makes it again. -/
theorem not_closesAlways_again :
    ∃ s, run Env.idle [.user getProtocolInfo] (.start .fresh (.listing [] [])) = some s ∧
      ¬ ClosesAlways (.calling [getProtocolInfo]) s := by
  obtain ⟨s, ran, waits⟩ := (Option.any_eq_true _ _).mp (show (run Env.idle
    [.user getProtocolInfo] (.start .fresh (.listing [] []))).any
    (fun s => 0 < s.pendingErrors) = true by decide +kernel)
  refine ⟨s, ran, fun closes => ?_⟩
  obtain ⟨n, bound, -⟩ := closes.runsOut
  rw [retriesFrom_again] at bound
  exact absurd (Nat.lt_of_lt_of_le (Nat.lt_add_of_pos_left (of_decide_eq_true waits)) bound)
    (Nat.lt_irrefl n)

end Libmdr
