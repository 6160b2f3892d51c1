import Libmdr.PacketConn.Scripted

/-!
# What a callback is called with

A call of a request's callback can be traced to the request: it was accepted before, the
function is one of its callbacks with its user data, and a packet that is passed is one that
its specifier matches.
-/

namespace Libmdr
set_option autoImplicit false

/-- A call of one of a request's callbacks, with an argument that the request allows. -/
structure Request.Expects (request : Request) (call : Called) : Prop where
  handle : call.handle = request.handle
  userData : call.userData = request.callbacks.userData
  fn : match call.arg with
    | .result _ => request.callbacks.result = some call.fn
    | .error _ => request.callbacks.error = some call.fn
  arg : match call.arg with
    | .result none => request.expectedReply.onlyAck = true
    | .result (some packet) => replySpecifierMatches request.expectedReply packet = true
    | .error _ => True

/-- The call belongs to a request that is accepted. -/
def Expected (past : List Event) (call : Called) : Prop :=
  ∃ request ∈ acceptedIn past, request.Expects call

theorem Expected.append {past : List Event} {call : Called} (expected : Expected past call)
    (more : List Event) : Expected (past ++ more) call := by
  obtain ⟨request, isIn, expects⟩ := expected
  exact ⟨request, by rw [acceptedIn_append]; exact List.mem_append_left _ isIn, expects⟩

/-- What of a request decides which calls it expects. -/
def Request.promise (request : Request) : Handle × ReplySpecifier × Callbacks :=
  (request.handle, request.asked)

theorem Request.Expects.congr {a b : Request} {call : Called} (expects : a.Expects call)
    (same : a.promise = b.promise) : b.Expects call := by
  obtain ⟨handle, asked⟩ := Prod.mk.inj same
  obtain ⟨spec, callbacks⟩ := Prod.mk.inj asked
  obtain ⟨isHandle, userData, fn, arg⟩ := expects
  exact ⟨isHandle.trans handle, callbacks ▸ userData, callbacks ▸ fn, spec ▸ arg⟩

/-- What was expected of a request before is expected of it now: the requests that wait were
accepted, and so were those whose callbacks were called, or are about to be. -/
structure Promised (past : List Event) (t : Session) : Prop where
  waiting : ∀ request ∈ t.queue.requests, ∃ accepted ∈ acceptedIn past,
    accepted.promise = request.promise
  owed : ∀ call, .called call ∈ t.owed → Expected past call
  made : ∀ front call back, past = front ++ .called call :: back → Expected front call

namespace Promised

variable {past : List Event} {q q' : RequestQueue} {closing closing' : Bool} {event : Event}
  {head : Request} {rest : List Request}

/-- Calls in a record that is one event longer. -/
theorem made_append (made : ∀ front call back, past = front ++ .called call :: back →
      Expected front call)
    (last : ∀ call, event = .called call → Expected past call) (front : List Event)
    (call : Called) (back : List Event) (split : past ++ [event] = front ++ .called call :: back) :
    Expected front call := by
  rcases List.eq_nil_or_concat back with rfl | ⟨back, other, rfl⟩
  · obtain ⟨rfl, isLast⟩ := List.append_inj' split rfl
    exact last call (List.cons.inj isLast).1
  · rw [List.concat_eq_append, ← List.cons_append, ← List.append_assoc] at split
    exact made front call back (List.append_inj' split rfl).1

/-- An event that calls nothing and leaves the promises of the queue as they are. -/
theorem quiet (promised : Promised past ⟨q, [], closing⟩) (owed : List Event)
    (same : q'.requests.map Request.promise ⊆ q.requests.map Request.promise)
    (owes : ∀ call, .called call ∈ owed → Expected (past ++ [event]) call)
    (other : ∀ call, event ≠ .called call) : Promised (past ++ [event]) ⟨q', owed, closing'⟩ where
  waiting := by
    intro request isIn
    obtain ⟨before, isBefore, isSame⟩ := List.mem_map.mp (same (List.mem_map_of_mem isIn))
    obtain ⟨accepted, isAccepted, promise⟩ := promised.waiting before isBefore
    exact ⟨accepted, by rw [acceptedIn_append]; exact List.mem_append_left _ isAccepted,
      promise.trans isSame⟩
  owed := owes
  made := made_append promised.made fun call isCall => absurd isCall (other call)

/-- The first request ends, and the call of its callback is one that it expects. -/
theorem ends (promised : Promised past ⟨q, [], closing⟩) (outcome : Outcome)
    (first : q.requests = head :: rest)
    (same : q'.requests.map Request.promise ⊆ q.requests.map Request.promise)
    (expects : ∀ call, head.callOf outcome = some call → head.Expects call)
    (other : ∀ call, event ≠ .called call) :
    Promised (past ++ [event]) ⟨q', head.ending outcome, closing'⟩ := by
  refine promised.quiet _ same ?_ other
  intro call isOwed
  rcases List.mem_cons.mp isOwed with isFinished | isCalled
  · cases isFinished
  · obtain ⟨made, isMade, isCall⟩ := List.mem_map.mp isCalled
    obtain rfl := Event.called.inj isCall
    obtain ⟨accepted, isAccepted, promise⟩ :=
      promised.waiting head (RequestQueue.head_mem first)
    refine Expected.append ⟨accepted, isAccepted, ?_⟩ [event]
    exact (expects _ (Option.mem_toList.mp isMade)).congr promise.symm

theorem promise_advance (q : RequestQueue) :
    q.advance.requests.map Request.promise ⊆ q.requests.map Request.promise := by
  rw [RequestQueue.map_advance (fun _ _ => rfl)]
  exact (List.tail_sublist _).subset

theorem promise_mapHead (q : RequestQueue) {f : Request → Request}
    (same : ∀ request, (f request).promise = request.promise) :
    (q.mapHead f).requests.map Request.promise ⊆ q.requests.map Request.promise := by
  rw [RequestQueue.map_mapHead same]
  exact List.Subset.refl _

theorem step {t t' : Session} (promised : Promised past t) (step : Session.Step t event t') :
    Promised (past ++ [event]) t' := by
  cases step with
  | owed q event rest closing =>
    refine ⟨?_, ?_, ?_⟩
    · intro request isIn
      obtain ⟨accepted, isAccepted, promise⟩ := promised.waiting request isIn
      exact ⟨accepted, by rw [acceptedIn_append]; exact List.mem_append_left _ isAccepted, promise⟩
    · intro call isOwed
      exact (promised.owed call (List.mem_cons_of_mem _ isOwed)).append [event]
    · refine made_append promised.made ?_
      rintro call rfl
      exact promised.owed call List.mem_cons_self
  | accepted q request closing unsent waiting =>
    refine ⟨?_, (fun _ isOwed => by cases isOwed),
      made_append promised.made fun _ isCall => by cases isCall⟩
    have promises : (Session.add q closing request).requests.map Request.promise =
        q.requests.map Request.promise ++ [request.promise] := by
      cases closing with
      | false => exact RequestQueue.map_enqueue (fun _ _ => rfl) q request
      | true => exact List.map_append
    intro waits isIn
    have isPromise := List.mem_map_of_mem (f := Request.promise) isIn
    rw [promises] at isPromise
    rw [acceptedIn_append]
    rcases List.mem_append.mp isPromise with isOld | isNew
    · obtain ⟨before, isBefore, isSame⟩ := List.mem_map.mp isOld
      obtain ⟨accepted, isAccepted, promise⟩ := promised.waiting before isBefore
      exact ⟨accepted, List.mem_append_left _ isAccepted, promise.trans isSame⟩
    · exact ⟨request, List.mem_append_right _ List.mem_cons_self,
        (List.mem_singleton.mp isNew).symm⟩
  | wrote q head rest result now first due =>
    refine promised.quiet [] ?_ (fun _ isOwed => by cases isOwed) (fun _ isCall => by cases isCall)
    split
    · exact List.Subset.refl _
    · exact promise_mapHead q fun _ => rfl
  | expired q head rest now first sent late spent =>
    refine promised.ends _ first ?_ ?_ (fun _ isCall => by cases isCall)
    · refine List.Subset.trans (promise_advance _) ?_
      cases head.acked <;> exact List.Subset.refl _
    · intro call isCall
      cases isAcked : head.acked <;> rw [isAcked] at isCall <;>
        obtain ⟨fn, isFn, rfl⟩ := Option.map_eq_some_iff.mp isCall <;>
        exact ⟨rfl, rfl, isFn, trivial⟩
  | ackedOnly q head rest frame now first isAck isMatch only =>
    refine promised.ends _ first (promise_advance q) ?_ (fun _ isCall => by cases isCall)
    intro call isCall
    obtain ⟨fn, isFn, rfl⟩ := Option.map_eq_some_iff.mp isCall
    exact ⟨rfl, rfl, isFn, only⟩
  | ackedWaits q head rest frame now first isAck isMatch waits =>
    refine promised.quiet _ ?_ ?_ (fun _ isCall => by cases isCall)
    · exact promise_mapHead q fun _ => rfl
    · intro call isOwed
      cases List.mem_singleton.mp isOwed
  | ignored q frame now other =>
    exact promised.quiet [] (List.Subset.refl _) (fun _ isOwed => by cases isOwed)
      (fun _ isCall => by cases isCall)
  | replied q head rest packet first isMatch =>
    refine promised.ends _ first (promise_advance q) ?_ (fun _ isCall => by cases isCall)
    intro call isCall
    obtain ⟨fn, isFn, rfl⟩ := Option.map_eq_some_iff.mp isCall
    exact ⟨rfl, rfl, isFn, isMatch⟩
  | unexpected q packet other =>
    exact promised.quiet [] (List.Subset.refl _) (fun _ isOwed => by cases isOwed)
      (fun _ isCall => by cases isCall)
  | closing q head rest closing first =>
    refine promised.ends _ first ?_ ?_ (fun _ isCall => by cases isCall)
    · rw [first]
      exact List.subset_cons_self _ _
    · intro call isCall
      obtain ⟨fn, isFn, rfl⟩ := Option.map_eq_some_iff.mp isCall
      exact ⟨rfl, rfl, isFn, trivial⟩
  | wroteAck q frame result =>
    exact promised.quiet [] (List.Subset.refl _) (fun _ isOwed => by cases isOwed)
      (fun _ isCall => by cases isCall)
  | notified q subscription packet =>
    exact promised.quiet [] (List.Subset.refl _) (fun _ isOwed => by cases isOwed)
      (fun _ isCall => by cases isCall)

end Promised

/-- Every call in a record that starts with a new connection is one that was expected. -/
theorem Records.expected {s s' : State} {closing closing' : Bool} {events : List Event}
    (records : Records s closing events s' closing') (fresh : s.conn.queue.requests = [])
    (front : List Event) (call : Called) (back : List Event)
    (split : events = front ++ .called call :: back) : Expected front call := by
  have start : Promised [] (s.session closing) := by
    refine ⟨?_, (fun _ isOwed => by cases isOwed), ?_⟩
    · intro request isIn
      rw [State.session, fresh] at isIn
      cases isIn
    · intro front call back split
      cases front <;> cases split
  exact (Trace.Run.invariant Promised start (fun past t event t' now step => now.step step)
    records.run).made front call back split

end Libmdr
