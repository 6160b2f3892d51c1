import Libmdr.Packet.Encoding
import Libmdr.PacketConn.Completion

/-!
# Which requests belong to which callback

A request that is accepted while a function of the packet connection runs was asked for by the
callback recorded last. The record of such a function is therefore a word over two kinds of
entries: an event of its own, and a callback followed by the requests that its script asked for.
-/

namespace Libmdr
set_option autoImplicit false

/-- What a call asks `mdr_packetconn_make_request` for, less the packet. -/
def UserCall.asked : UserCall → Option (ReplySpecifier × Callbacks)
  | .makeRequest _ spec callbacks => some (spec, callbacks)
  | _ => none

def Request.asked (request : Request) : ReplySpecifier × Callbacks :=
  (request.expectedReply, request.callbacks)

/-- The requests that are accepted, among those that were asked for, in order: all of them as long
as no allocation fails. -/
structure Env.Accepts (env : Env) (accepted asked : List (ReplySpecifier × Callbacks)) : Prop where
  sublist : accepted.Sublist asked
  all : env.heap.NeverFails → accepted = asked

theorem Env.Accepts.refl (env : Env) (asked : List (ReplySpecifier × Callbacks)) :
    env.Accepts asked asked := ⟨.refl _, fun _ => rfl⟩

theorem Env.Accepts.append {env : Env} {xs ys xs' ys' : List (ReplySpecifier × Callbacks)}
    (front : env.Accepts xs ys) (back : env.Accepts xs' ys') :
    env.Accepts (xs ++ xs') (ys ++ ys') where
  sublist := front.sublist.append back.sublist
  all never := by rw [front.all never, back.all never]

/-- The calls of callbacks. -/
def Event.IsCallback : Event → Bool
  | .called _ | .notified _ _ => true
  | _ => false

/-- The events that the library records between the callbacks. -/
def Event.IsQuiet : Event → Bool
  | .called _ | .notified _ _ | .accepted _ => false
  | _ => true

/-- A record in which `k` callbacks have run before the first event and `k'` behind the last. -/
inductive Scripted (env : Env) : Nat → List Event → Nat → Prop
  | nil (k : Nat) : Scripted env k [] k
  | quiet {k k' : Nat} {event : Event} {events : List Event} (isQuiet : event.IsQuiet = true)
      (rest : Scripted env k events k') : Scripted env k (event :: events) k'
  | callback {k k' : Nat} {event : Event} {events : List Event} (new : List Request)
      (isCallback : event.IsCallback = true)
      (asked : env.Accepts (new.map Request.asked) ((env.script k).filterMap UserCall.asked))
      (rest : Scripted env (k + 1) events k') :
      Scripted env k (event :: (new.map .accepted ++ events)) k'

/-- One stretch of the record after the other: the callbacks are counted on. -/
theorem Scripted.append {env : Env} {k l m : Nat} {xs ys : List Event}
    (front : Scripted env k xs l) (back : Scripted env l ys m) : Scripted env k (xs ++ ys) m := by
  induction front with
  | nil => exact back
  | quiet isQuiet _ ih => exact .quiet isQuiet (ih back)
  | callback new isCallback asked _ ih =>
    rw [List.cons_append, List.append_assoc]
    exact .callback new isCallback asked (ih back)

/-- What the functions of the packet connection add to the record is scripted. -/
def Ran (env : Env) (s s' : State) : Prop :=
  ∃ events, s'.log = s.log ++ events ∧ Scripted env s.calls events s'.calls

section

variable {env : Env} {now : Timespec} {s t u s' : State} {result : Int}

/-- Nothing is recorded, and no callback begins. -/
theorem Ran.of_same (log : t.log = s.log) (calls : t.calls = s.calls) : Ran env s t :=
  ⟨[], by rw [log, List.append_nil], by rw [calls]; exact .nil _⟩

theorem Ran.refl (s : State) : Ran env s s := .of_same rfl rfl

theorem Ran.trans (front : Ran env s t) (back : Ran env t u) : Ran env s u := by
  obtain ⟨xs, log, scripted⟩ := front
  obtain ⟨ys, log', scripted'⟩ := back
  exact ⟨xs ++ ys, by rw [log', log, List.append_assoc], scripted.append scripted'⟩

/-- An event of the library's own, with changes to other parts of the state. -/
theorem Ran.quiet {event : Event} (isQuiet : event.IsQuiet = true)
    (log : t.log = s.log ++ [event]) (calls : t.calls = s.calls) : Ran env s t :=
  ⟨[event], log, by rw [calls]; exact .quiet isQuiet (.nil _)⟩

/-! ## User code -/

/-- `mdr_packetconn_make_request` returns NULL if and only if one of its allocations fails. -/
theorem makeRequest_isSome_iff {packet : Packet} {spec : ReplySpecifier} {callbacks : Callbacks}
    {handle : Option Handle} (made : makeRequest env packet spec callbacks s = some (handle, s')) :
    handle.isSome ↔ env.heap.Serves s.host.mallocs s'.host.mallocs := by
  simp only [makeRequest, Option.bind_eq_bind, Option.bind_eq_some_iff] at made
  obtain ⟨⟨frame, host⟩, framed, made⟩ := made
  obtain ⟨layouts, isLayouts, framed⟩ := Option.bind_eq_some_iff.mp framed
  obtain ⟨less, serves⟩ := writeFrames_serves (packet.layouts_fills layouts isLayouts).1 framed
  cases frame with
  | none =>
    cases made
    exact serves
  | some frame =>
    have framedIt := serves.mp rfl
    cases block : env.heap host.mallocs with
    | none =>
      simp only [Host.malloc, block] at made
      cases made
      refine ⟨(fun isSome => by cases isSome), fun all => ?_⟩
      have served := all host.mallocs (Nat.le_of_lt less) (Nat.lt_succ_self _)
      rw [block] at served
      cases served
    | some junk =>
      simp only [Host.malloc, block] at made
      cases made
      refine ⟨fun _ i above below => ?_, fun _ => rfl⟩
      rcases Nat.lt_or_eq_of_le (Nat.le_of_lt_succ below) with before | rfl
      · exact framedIt i above before
      · rw [block]
        rfl

/-- A request can be made when its packet can be encoded. -/
theorem makeRequest_returns_iff (env : Env) (packet : Packet) (spec : ReplySpecifier)
    (callbacks : Callbacks) (s : State) :
    (makeRequest env packet spec callbacks s).isSome ↔ packet.layouts.isSome := by
  constructor
  · intro returns
    obtain ⟨made, run⟩ := Option.isSome_iff_exists.mp returns
    simp only [makeRequest, Packet.toFrame, Option.bind_eq_bind, Option.bind_eq_some_iff] at run
    obtain ⟨framed, ⟨layouts, isLayouts, -⟩, -⟩ := run
    exact Option.isSome_of_eq_some isLayouts
  · intro encodes
    obtain ⟨made, host, written, framed, -⟩ := Packet.toFrame_spec env.heap s.host encodes
    simp only [makeRequest, framed, Option.bind_eq_bind, Option.bind_some]
    cases made with
    | none => rfl
    | some frame =>
      dsimp only
      split <;> rfl

/-- The packet of a request can be encoded. -/
def UserCall.Encodes : UserCall → Prop
  | .makeRequest packet _ _ => packet.layouts.isSome
  | _ => True

/-- A call by user code returns when its packet can be encoded: nothing else can go wrong in it. -/
theorem userCall_returns_iff (env : Env) (c : UserCall) (s : State) :
    (userCall env s c).isSome ↔ c.Encodes := by
  cases c with
  | makeRequest packet spec callbacks =>
    rw [userCall, Option.isSome_map, makeRequest_returns_iff]
    rfl
  | subscribe spec fn userData => exact ⟨fun _ => trivial, fun _ => rfl⟩
  | removeSubscription handle => exact ⟨fun _ => trivial, fun _ => rfl⟩

/-- The calls of a callback one after the other. The induction is on their list. -/
theorem userCalls_return_iff (env : Env) (calls : List UserCall) (s : State) :
    (calls.foldlM (userCall env) s).isSome ↔ ∀ c ∈ calls, c.Encodes := by
  induction calls generalizing s with
  | nil => exact ⟨(fun _ _ isIn => by cases isIn), fun _ => rfl⟩
  | cons c rest ih =>
    rw [List.forall_mem_cons, ← userCall_returns_iff env c s, List.foldlM_cons]
    cases first : userCall env s c with
    | none => exact ⟨(fun returns => by cases returns), fun both => by cases both.1⟩
    | some t => exact (ih t).trans ⟨fun all => ⟨rfl, all⟩, And.right⟩

/-- The requests that one call adds are those it asks for, less the ones without memory. -/
theorem userCall_asked {c : UserCall} (run : userCall env s c = some s') :
    ∃ new : List Request, s'.log = s.log ++ new.map .accepted ∧ s'.calls = s.calls ∧
      env.Accepts (new.map Request.asked) c.asked.toList := by
  cases c with
  | makeRequest packet spec callbacks =>
    obtain ⟨⟨handle, t⟩, made, rfl⟩ := Option.map_eq_some_iff.mp run
    have accepts (never : env.heap.NeverFails) :=
      (makeRequest_isSome_iff made).mpr fun i _ _ => never i
    simp only [makeRequest, Option.bind_eq_bind, Option.bind_eq_some_iff] at made
    obtain ⟨⟨frame, host⟩, -, made⟩ := made
    cases frame with
    | none =>
      cases made
      refine ⟨[], (List.append_nil _).symm, rfl, List.nil_sublist _, fun never => ?_⟩
      cases accepts never
    | some frame =>
      dsimp only at made
      split at made
      · cases made
        refine ⟨[], (List.append_nil _).symm, rfl, List.nil_sublist _, fun never => ?_⟩
        cases accepts never
      · cases made
        exact ⟨[_], rfl, rfl, .refl _ _⟩
  | subscribe spec fn userData =>
    cases run
    refine ⟨[], ?_, ?_, .refl _ _⟩ <;> unfold subscribe <;> split <;> simp
  | removeSubscription handle =>
    cases run
    exact ⟨[], (List.append_nil _).symm, rfl, .refl _ _⟩

/-- The requests that are accepted are among those that were asked for, in order. -/
theorem userCalls_asked {calls : List UserCall} (run : calls.foldlM (userCall env) s = some s') :
    ∃ new : List Request, s'.log = s.log ++ new.map .accepted ∧ s'.calls = s.calls ∧
      env.Accepts (new.map Request.asked) (calls.filterMap UserCall.asked) := by
  induction calls generalizing s with
  | nil =>
    cases run
    exact ⟨[], (List.append_nil _).symm, rfl, .refl _ _⟩
  | cons c rest ih =>
    rw [List.foldlM_cons, Option.bind_eq_bind, Option.bind_eq_some_iff] at run
    obtain ⟨t, first, run⟩ := run
    obtain ⟨new, log, calls, asked⟩ := userCall_asked first
    obtain ⟨more, log', calls', asked'⟩ := ih run
    refine ⟨new ++ more, ?_, calls'.trans calls, ?_⟩
    · rw [log', log, List.map_append, List.append_assoc]
    · have both := asked.append asked'
      rw [← List.map_append] at both
      cases c with
      | makeRequest packet spec callbacks => exact both
      | _ => exact both

/-- **The rule for callbacks.** The entry of the `k`-th callback is followed by what the `k`-th
script asks for. -/
theorem runCallback_ran {event : Event} (isCallback : event.IsCallback = true)
    (run : runCallback env event s = some s') : Ran env s s' := by
  obtain ⟨new, log, calls, asked⟩ := userCalls_asked run
  refine ⟨event :: (new.map .accepted ++ []), ?_, ?_⟩
  · rw [log, List.append_nil]
    exact List.append_assoc _ _ _
  · rw [calls]
    exact .callback new isCallback asked (.nil _)

theorem callResult_ran {request : Request} {packet : Option Packet}
    (run : callResult env request packet s = some s') : Ran env s s' := by
  unfold callResult at run
  split at run
  · cases run
    exact .refl s
  · exact runCallback_ran rfl run

theorem callError_ran {request : Request} {e : Errno}
    (run : callError env request e s = some s') : Ran env s s' := by
  unfold callError at run
  split at run
  · cases run
    exact .refl s
  · have sets : Ran env s { s with host := { s.host with errno := e } } := .of_same rfl rfl
    exact sets.trans (runCallback_ran rfl run)

/-! ## Sending -/

theorem flushPart_ran {writable : Bool} (run : flushPart writable s = some (result, s')) :
    Ran env s s' := by
  obtain ⟨-, -, rfl⟩ | ⟨flushed, fconn, host, -, -, rfl, -⟩ := flushPart_cases run
  · exact .refl s'
  · exact .of_same rfl rfl

theorem transmit_ran {head : Request} (run : transmit env now head s = some (result, s')) :
    Ran env s s' := by
  obtain ⟨written, fconn, host, -, -, rfl⟩ := transmit_cases run
  split <;> exact .quiet rfl rfl rfl

/-- One callback at most: that of the error. -/
theorem giveUp_ran {head : Request} (run : giveUp env now head s = some s') : Ran env s s' := by
  simp only [giveUp, Option.bind_eq_bind, Option.bind_eq_some_iff] at run
  obtain ⟨t, called, run⟩ := run
  cases run
  have ends : Ran env s (s.record [.expired now, .finished head
      (if head.acked then .noReply else .noAck)]) :=
    ⟨_, rfl, .quiet rfl (.quiet rfl (.nil _))⟩
  refine ends.trans (.trans (.of_same ?_ ?_) ((callError_ran called).trans (.of_same rfl rfl)))
  · split <;> rfl
  · split <;> rfl

theorem sendPart_ran {writable : Bool} (run : sendPart env now writable s = some (result, s')) :
    Ran env s s' := by
  obtain ⟨head, rest, -, -, call⟩ | ⟨-, -, rfl | ⟨head, rest, -, -, -, -, given⟩⟩ :=
    sendPart_cases run
  · exact transmit_ran call
  · exact .refl s'
  · exact giveUp_ran given

/-! ## Receiving -/

/-- One callback at most, when the request waits for no reply. -/
theorem receiveAck_ran {frame : Frame} (run : receiveAck env now frame s = some s') :
    Ran env s s' := by
  unfold receiveAck at run
  split at run
  · cases run
    exact .refl s
  · rename_i head rest first
    split at run
    · split at run
      · have ends : Ran env s (s.record [.finished head (.ack frame)]).advanceFrameQueue :=
          .quiet rfl rfl rfl
        exact ends.trans (callResult_ran run)
      · cases run
        exact .quiet rfl rfl rfl
    · cases run
      exact .refl s

/-- One callback at most, when the packet is one that the subscription is for. -/
theorem notify_ran {packet : Packet} {node : Subscription}
    (run : notify env packet node s = some s') : Ran env s s' := by
  unfold notify at run
  split at run
  · split at run
    · exact runCallback_ran rfl run
    · cases run
      exact .refl s
  · cases run
    exact .refl s

/-- A callback for each subscription that wants the packet. The induction is on the rounds. -/
theorem dispatch_ran {packet : Packet} {rounds : Nat} {handle : Option Handle}
    (run : dispatch env packet rounds handle s = some s') : Ran env s s' := by
  induction rounds generalizing handle s with
  | zero =>
    cases handle with
    | none =>
      cases run
      exact .refl _
    | some handle => cases run
  | succ rounds ih =>
    cases handle with
    | none =>
      cases run
      exact .refl _
    | some handle =>
      simp only [dispatch, Option.bind_eq_bind, Option.bind_eq_some_iff] at run
      obtain ⟨node, -, t, notified, next, -, run⟩ := run
      exact (notify_ran notified).trans (ih run)

theorem receivePacket_ran {packet : Packet} (run : receivePacket env packet s = some s') :
    Ran env s s' := by
  unfold receivePacket at run
  dsimp only at run
  have parsed : Ran env s (s.record [.parsed packet s.conn.queue.requests.head?]) :=
    .quiet rfl rfl rfl
  refine parsed.trans ?_
  split at run
  · exact dispatch_ran run
  · rename_i head rest first
    split at run
    · refine .trans ⟨[.finished head (.reply packet)], rfl, ?_⟩ (callResult_ran run)
      exact .quiet rfl (.nil _)
    · exact dispatch_ran run

/-- The ACK is no callback, and what a packet leads to is that of `receivePacket`. -/
theorem receiveData_ran {frame : Frame} (run : receiveData env frame s = some (result, s')) :
    Ran env s s' := by
  simp only [receiveData, Option.bind_eq_bind, Option.bind_eq_some_iff] at run
  obtain ⟨⟨written, fconn, host⟩, -, ⟨packet, host'⟩, -, run⟩ := run
  have acknowledged : Ran env s (State.record { s with conn := { s.conn with fconn }, host := host' }
      [.wroteAck (ackFrame frame) written]) := .quiet rfl rfl rfl
  cases packet with
  | none =>
    cases run
    exact acknowledged
  | some packet =>
    simp only [Option.bind_eq_some_iff] at run
    obtain ⟨t, received, run⟩ := run
    cases run
    exact acknowledged.trans (receivePacket_ran received)

theorem receiveFrame_ran {frame : Frame}
    (run : receiveFrame env now frame s = some (result, s')) : Ran env s s' := by
  unfold receiveFrame at run
  dsimp only at run
  have received : Ran env s (s.record [.received frame s.conn.queue.requests.head? now]) :=
    .quiet rfl rfl rfl
  refine received.trans ?_
  split at run
  · simp only [Option.bind_eq_bind, Option.bind_eq_some_iff] at run
    obtain ⟨t, acked, run⟩ := run
    cases run
    exact receiveAck_ran acked
  · split at run
    · exact receiveData_ran run
    · cases run
      exact .refl _

theorem receivePart_ran (run : receivePart env now s = some (result, s')) : Ran env s s' := by
  unfold receivePart at run
  split at run
  · cases run
  · cases run
    exact .of_same rfl rfl
  · rename_i frame fconn host read
    have reads : Ran env s { s with conn := { s.conn with fconn }, host } := .of_same rfl rfl
    exact reads.trans (receiveFrame_ran run)

/-- **Callbacks run their scripts, in order**, in a call of `process`. -/
theorem process_ran {readable writable : Bool}
    (run : process env now readable writable s = some (result, s')) : Ran env s s' :=
  process_related (Ran env) (fun _ _ _ => .trans) (fun _ _ _ => flushPart_ran)
    (fun _ _ _ => sendPart_ran) (fun _ _ _ => receivePart_ran) run

/-! ## Closing -/

/-- An error callback for each request that is left. The induction is on the rounds. -/
theorem freeRequests_ran {rounds : Nat} (run : freeRequests env rounds s = some s') :
    Ran env s s' := by
  refine freeRequests_rounds (Ran env · s') (fun _ => .refl s') ?_ run
  intro s t head rest first called later
  have ends : Ran env s (s.record [.closing, .finished head .closed]) :=
    ⟨_, rfl, .quiet rfl (.quiet rfl (.nil _))⟩
  have freed : Ran env t (t.freeFirst head) := .of_same rfl rfl
  exact (ends.trans (callError_ran called)).trans (freed.trans later)

/-- And in `mdr_packetconn_close`. -/
theorem close_ran (run : close env s = some s') : Ran env s s' := by
  simp only [close, Option.bind_eq_bind, Option.bind_eq_some_iff] at run
  obtain ⟨t, freed, run⟩ := run
  cases run
  exact (freeRequests_ran freed).trans (.of_same rfl rfl)

end

end Libmdr
