import Libmdr.PacketConn.Session

/-!
# Every call is a run of the session

What a function of the packet connection adds to the record is a run of
`Session.Step` from the queue before the call to the queue after it. One lemma
for each function; facts about whole runs then follow from the session alone.
-/

namespace Libmdr
set_option autoImplicit false

/-- The requests that were accepted, in order. -/
def acceptedIn (events : List Event) : List Request :=
  events.filterMap fun
    | .accepted request => some request
    | _ => none

@[simp] theorem acceptedIn_append (xs ys : List Event) :
    acceptedIn (xs ++ ys) = acceptedIn xs ++ acceptedIn ys := List.filterMap_append

@[simp] theorem acceptedIn_map_accepted (requests : List Request) :
    acceptedIn (requests.map .accepted) = requests := by
  induction requests with
  | nil => rfl
  | cons request rest ih => exact congrArg (request :: ·) ih

/-- Handles are given out in increasing order, from `m` up to `n`. -/
structure Numbered (requests : List Request) (m n : Handle) : Prop where
  mono : m ≤ n
  bounds : ∀ request ∈ requests, m ≤ request.handle ∧ request.handle < n
  increasing : requests.Pairwise fun a b => a.handle < b.handle

theorem Numbered.nil {m n : Handle} (mono : m ≤ n) : Numbered [] m n where
  mono := mono
  bounds := fun _ isIn => by cases isIn
  increasing := .nil

/-- Addresses go up from one stretch of the record to the next. -/
theorem Numbered.append {xs ys : List Request} {l m n : Handle} (front : Numbered xs l m)
    (back : Numbered ys m n) : Numbered (xs ++ ys) l n where
  mono := Nat.le_trans front.mono back.mono
  bounds := by
    intro request isIn
    rcases List.mem_append.mp isIn with early | late
    · have bounds := front.bounds request early
      exact ⟨bounds.1, Nat.lt_of_lt_of_le bounds.2 back.mono⟩
    · have bounds := back.bounds request late
      exact ⟨Nat.le_trans front.mono bounds.1, bounds.2⟩
  increasing := by
    refine List.pairwise_append.mpr ⟨front.increasing, back.increasing, ?_⟩
    intro a early b late
    exact Nat.lt_of_lt_of_le (front.bounds a early).2 (back.bounds b late).1

/-! ## User code -/

/-- The frame is one that `mdr_packet_to_frame` made. -/
def Frame.Made (frame : Frame) : Prop :=
  ∃ heap, ∃ packet : Packet, ∃ h h', packet.toFrame heap h = some (some frame, h')

/-- What user code can do to a connection: add requests. -/
structure Added (s : State) (new : List Request) (s' : State) : Prop where
  log : s'.log = s.log ++ new.map .accepted
  queue : s'.conn.queue = new.foldl RequestQueue.enqueue s.conn.queue
  unsent : ∀ request ∈ new, request.attempts = 0 ∧ request.acked = false
  made : ∀ request ∈ new, request.frame.Made
  numbered : Numbered new s.nextHandle s'.nextHandle
  fconn : s'.conn.fconn = s.conn.fconn

/-- User code that adds no request. -/
theorem Added.of_same {s s' : State} (log : s'.log = s.log)
    (queue : s'.conn.queue = s.conn.queue) (mono : s.nextHandle ≤ s'.nextHandle)
    (fconn : s'.conn.fconn = s.conn.fconn) : Added s [] s' where
  log := by rw [log, List.map_nil, List.append_nil]
  queue := queue
  unsent := fun _ isIn => by cases isIn
  made := fun _ isIn => by cases isIn
  numbered := .nil mono
  fconn := fconn

theorem Added.refl (s : State) : Added s [] s := .of_same rfl rfl (Nat.le_refl _) rfl

/-- User code behind a first request: the queue can be advanced before it. -/
theorem Added.advance {s s' : State} {new : List Request} {head : Request} {rest : List Request}
    (added : Added s new s') (first : s.conn.queue.requests = head :: rest) :
    Added s.advanceFrameQueue new s'.advanceFrameQueue where
  log := added.log
  queue := by
    rw [State.advanceFrameQueue_queue, State.advanceFrameQueue_queue, added.queue]
    exact RequestQueue.advance_foldl_enqueue first new
  unsent := added.unsent
  made := added.made
  numbered := added.numbered
  fconn := added.fconn

/-- Requests are added behind those that were added before. -/
theorem Added.trans {s t u : State} {new more : List Request} (front : Added s new t)
    (back : Added t more u) : Added s (new ++ more) u where
  log := by rw [back.log, front.log, List.map_append, List.append_assoc]
  queue := by rw [back.queue, front.queue, List.foldl_append]
  unsent := by
    intro request isIn
    rcases List.mem_append.mp isIn with early | late
    · exact front.unsent request early
    · exact back.unsent request late
  made := by
    intro request isIn
    rcases List.mem_append.mp isIn with early | late
    · exact front.made request early
    · exact back.made request late
  numbered := front.numbered.append back.numbered
  fconn := back.fconn.trans front.fconn

/-- `mdr_packetconn_make_request` adds its request, or nothing without memory. -/
theorem makeRequest_added {env : Env} {packet : Packet} {spec : ReplySpecifier}
    {callbacks : Callbacks} {s s' : State} {handle : Option Handle}
    (run : makeRequest env packet spec callbacks s = some (handle, s')) :
    ∃ new, Added s new s' := by
  simp only [makeRequest, Option.bind_eq_bind, Option.bind_eq_some_iff] at run
  obtain ⟨⟨frame, host⟩, encoded, run⟩ := run
  cases frame with
  | none =>
    cases run
    exact ⟨[], .of_same rfl rfl (Nat.le_refl _) rfl⟩
  | some frame =>
    dsimp only at run
    split at run
    · cases run
      exact ⟨[], .of_same rfl rfl (Nat.le_refl _) rfl⟩
    · cases run
      refine ⟨[_], rfl, rfl, ?_, ?_, ?_, rfl⟩
      · intro request isIn
        rw [List.mem_singleton.mp isIn]
        exact ⟨rfl, rfl⟩
      · intro request isIn
        rw [List.mem_singleton.mp isIn]
        exact ⟨env.heap, packet, _, _, encoded⟩
      · refine ⟨Nat.le_succ _, ?_, List.pairwise_singleton _ _⟩
        intro request isIn
        rw [List.mem_singleton.mp isIn]
        exact ⟨Nat.le_refl _, Nat.lt_succ_self _⟩

theorem subscribe_added (env : Env) (spec : ReplySpecifier) (result : Option FnPtr)
    (userData : Nat) (s : State) : Added s [] (subscribe env spec result userData s).2 := by
  unfold subscribe
  split
  · exact .of_same rfl rfl (Nat.le_refl _) rfl
  · exact .of_same rfl rfl (Nat.le_succ _) rfl

theorem removeSubscription_added (handle : Handle) (s : State) :
    Added s [] (removeSubscription handle s) :=
  .of_same rfl rfl (Nat.le_refl _) rfl

/-- Of the calls by user code only requests add to the queue. -/
theorem userCall_added {env : Env} {s s' : State} {c : UserCall}
    (run : userCall env s c = some s') : ∃ new, Added s new s' := by
  cases c with
  | makeRequest packet spec callbacks =>
    obtain ⟨⟨handle, t⟩, made, rfl⟩ := Option.map_eq_some_iff.mp run
    exact makeRequest_added made
  | subscribe spec result userData =>
    cases run
    exact ⟨[], subscribe_added env spec result userData s⟩
  | removeSubscription handle =>
    cases run
    exact ⟨[], removeSubscription_added handle s⟩

theorem userCalls_added {env : Env} {calls : List UserCall} {s s' : State}
    (run : calls.foldlM (userCall env) s = some s') : ∃ new, Added s new s' := by
  refine Trace.foldlM_related (fun s t => ∃ new, Added s new t) (fun s => ⟨[], .refl s⟩) ?_
    (fun _ _ _ _ => userCall_added) run
  rintro s t u ⟨new, added⟩ ⟨more, later⟩
  exact ⟨new ++ more, added.trans later⟩

/-- A callback is recorded, and then adds requests. -/
theorem runCallback_added {env : Env} {event : Event} {s s' : State}
    (run : runCallback env event s = some s') : ∃ new, Added (s.record [event]) new s' := by
  obtain ⟨new, log, queue, unsent, made, numbered, fconn⟩ := userCalls_added run
  exact ⟨new, log, queue, unsent, made, numbered, fconn⟩

theorem callResult_added {env : Env} {request : Request} {packet : Option Packet} {s s' : State}
    {outcome : Outcome}
    (call : request.callOf outcome = request.callbacks.result.map fun fn =>
      { handle := request.handle, fn, arg := .result packet,
        userData := request.callbacks.userData })
    (run : callResult env request packet s = some s') :
    ∃ new, Added (s.record ((request.callOf outcome).toList.map .called)) new s' := by
  unfold callResult at run
  split at run
  · rename_i null
    cases run
    rw [call, null]
    exact ⟨[], .of_same (by simp) rfl (Nat.le_refl _) rfl⟩
  · rename_i fn pointer
    rw [call, pointer]
    exact runCallback_added run

theorem callError_added {env : Env} {request : Request} {e : Errno} {s s' : State}
    {outcome : Outcome}
    (call : request.callOf outcome = request.callbacks.error.map fun fn =>
      { handle := request.handle, fn, arg := .error e, userData := request.callbacks.userData })
    (run : callError env request e s = some s') :
    ∃ new, Added (s.record ((request.callOf outcome).toList.map .called)) new s' := by
  unfold callError at run
  split at run
  · rename_i null
    cases run
    rw [call, null]
    exact ⟨[], .of_same (by simp) rfl (Nat.le_refl _) rfl⟩
  · rename_i fn pointer
    rw [call, pointer]
    obtain ⟨new, log, queue, unsent, made, numbered, fconn⟩ := runCallback_added run
    exact ⟨new, log, queue, unsent, made, numbered, fconn⟩

/-! ## The record as a run -/

/-- A connection state as a session in which nothing is owed. -/
def State.session (s : State) (closing : Bool) : Session := ⟨s.conn.queue, [], closing⟩

/-- What a function has added to the record. -/
structure Records (s : State) (closing : Bool) (events : List Event) (s' : State)
    (closing' : Bool) : Prop where
  log : s'.log = s.log ++ events
  run : Trace.Run Session.Step (s.session closing) events (s'.session closing')
  numbered : Numbered (acceptedIn events) s.nextHandle s'.nextHandle

theorem Records.refl (s : State) (closing : Bool) : Records s closing [] s closing :=
  ⟨(List.append_nil _).symm, .nil _, .nil (Nat.le_refl _)⟩

/-- **Refinement composes**: the abstract queue takes the events of both stretches. -/
theorem Records.trans {s t u : State} {c d e : Bool} {xs ys : List Event}
    (front : Records s c xs t d) (back : Records t d ys u e) : Records s c (xs ++ ys) u e where
  log := by rw [back.log, front.log, List.append_assoc]
  run := front.run.append back.run
  numbered := by
    rw [acceptedIn_append]
    exact front.numbered.append back.numbered

/-- A change that the session does not see. -/
theorem Records.of_same {s s' : State} {closing : Bool} (log : s'.log = s.log)
    (queue : s'.conn.queue = s.conn.queue) (mono : s.nextHandle = s'.nextHandle) :
    Records s closing [] s' closing where
  log := by rw [log, List.append_nil]
  run := by
    rw [State.session, State.session, queue]
    exact .nil _
  numbered := .nil (Nat.le_of_eq mono)

/-- Accepted requests are steps of the abstract queue. -/
theorem Added.records {s s' : State} {new : List Request} (added : Added s new s') :
    Records s false (new.map .accepted) s' false where
  log := added.log
  run := by
    rw [State.session, State.session, added.queue]
    exact Session.run_accepted _ false added.unsent
  numbered := by
    rw [acceptedIn_map_accepted]
    exact added.numbered

@[simp] theorem acceptedIn_ending (request : Request) (outcome : Outcome) :
    acceptedIn (request.ending outcome) = [] := by
  rw [Request.ending]
  cases request.callOf outcome <;> rfl

/-- A request ends with an event: what is owed then is recorded, and the callback
adds requests. -/
theorem records_ending {s t s' : State} {event : Event} {head : Request} {outcome : Outcome}
    {new : List Request} (added : Added t new s')
    (step : Session.Step (s.session false) event ⟨t.conn.queue, head.ending outcome, false⟩)
    (log : t.log = s.log ++ event :: head.ending outcome) (plain : acceptedIn [event] = [])
    (handles : t.nextHandle = s.nextHandle) :
    Records s false (event :: head.ending outcome ++ new.map .accepted) s' false where
  log := by rw [added.log, log, List.append_assoc]
  run := by
    refine .append (.cons step (Session.run_owed _ _ false)) ?_
    rw [State.session, added.queue]
    exact Session.run_accepted _ false added.unsent
  numbered := by
    have split : acceptedIn (event :: head.ending outcome ++ new.map .accepted) = new := by
      rw [acceptedIn_append, acceptedIn_map_accepted, ← List.singleton_append, acceptedIn_append,
        plain, acceptedIn_ending]
      rfl
    rw [split, ← handles]
    exact added.numbered

/-! ## Sending -/

theorem flushPart_records {writable : Bool} {s s' : State} {result : Int}
    (run : flushPart writable s = some (result, s')) : Records s false [] s' false := by
  obtain ⟨-, -, rfl⟩ | ⟨flushed, fconn, host, -, -, rfl, -⟩ := flushPart_cases run
  · exact .refl _ _
  · exact .of_same rfl rfl rfl

/-- A write is a step of the abstract queue: only the first request is written. -/
theorem transmit_records {env : Env} {now : Timespec} {head : Request} {rest : List Request}
    {s s' : State} {result : Int} (first : s.conn.queue.requests = head :: rest)
    (due : head.attempts = 0 ∨ 0 < timespecCompare now head.timeout ∧ head.acked = false ∧
      head.attempts < packetMaxTries)
    (run : transmit env now head s = some (result, s')) :
    ∃ written, Records s false [.wrote head written now] s' false := by
  obtain ⟨written, fconn, host, -, -, rfl⟩ := transmit_cases run
  have step := Session.Step.wrote s.conn.queue head rest written now first due
  refine ⟨written, ?_⟩
  by_cases failed : written < 0
  · rw [if_pos failed] at step ⊢
    exact ⟨rfl, .single step, .nil (Nat.le_refl _)⟩
  · rw [if_neg failed] at step ⊢
    exact ⟨rfl, .single step, .nil (Nat.le_refl _)⟩

/-- A request that is given up leaves the abstract queue with its error callback. -/
theorem giveUp_records {env : Env} {now : Timespec} {head : Request} {rest : List Request}
    {s s' : State} (first : s.conn.queue.requests = head :: rest) (sent : head.attempts ≠ 0)
    (late : 0 < timespecCompare now head.timeout)
    (spent : head.acked = true ∨ packetMaxTries ≤ head.attempts)
    (run : giveUp env now head s = some s') : ∃ events, Records s false events s' false := by
  simp only [giveUp, Option.bind_eq_bind, Option.bind_eq_some_iff] at run
  obtain ⟨t, called, run⟩ := run
  cases run
  have step := Session.Step.expired s.conn.queue head rest now first sent late spent
  cases isAcked : head.acked with
  | true =>
    rw [isAcked, if_pos rfl, if_pos rfl] at step
    simp only [isAcked, if_true] at called
    obtain ⟨new, added⟩ := callError_added (show head.callOf .noReply = _ from rfl) called
    refine ⟨_, records_ending (added.advance first) step ?_ rfl rfl⟩
    simp [Request.ending]
  | false =>
    rw [isAcked, if_neg Bool.false_ne_true, if_neg Bool.false_ne_true] at step
    simp only [isAcked, Bool.false_eq_true, if_false] at called
    obtain ⟨new, added⟩ := callError_added (show head.callOf .noAck = _ from rfl) called
    refine ⟨_, records_ending (added.advance first) step ?_ rfl rfl⟩
    simp [Request.ending]

/-- The three things that this part does, each with its steps. -/
theorem sendPart_records {env : Env} {now : Timespec} {writable : Bool} {s s' : State}
    {result : Int} (run : sendPart env now writable s = some (result, s')) :
    ∃ events, Records s false events s' false := by
  obtain ⟨head, rest, first, due, call⟩ |
    ⟨-, -, rfl | ⟨head, rest, first, sent, late, spent, given⟩⟩ := sendPart_cases run
  · obtain ⟨written, records⟩ := transmit_records first due.due call
    exact ⟨_, records⟩
  · exact ⟨[], .refl _ _⟩
  · exact giveUp_records first sent late spent given

/-! ## Receiving -/

/-- A frame that changes nothing in the queue. -/
theorem records_ignored {s : State} {frame : Frame} (now : Timespec)
    (other : frame.dataType = frameDataTypeAck →
      ∀ head, s.conn.queue.requests.head? = some head → ackMatches frame head = false) :
    Records s false [.received frame s.conn.queue.requests.head? now]
      (s.record [.received frame s.conn.queue.requests.head? now]) false :=
  ⟨rfl, .single (.ignored _ frame now other), .nil (Nat.le_refl _)⟩

/-- An ACK ends the first request, marks it, or changes nothing. -/
theorem receiveAck_records {env : Env} {now : Timespec} {frame : Frame} {s s' : State}
    (isAck : frame.dataType = frameDataTypeAck)
    (run : receiveAck env now frame
      (s.record [.received frame s.conn.queue.requests.head? now]) = some s') :
    ∃ events, Records s false (.received frame s.conn.queue.requests.head? now :: events)
      s' false := by
  unfold receiveAck at run
  split at run
  · rename_i empty
    cases run
    refine ⟨[], records_ignored now fun _ head isHead => ?_⟩
    rw [State.record_conn] at empty
    rw [empty] at isHead
    cases isHead
  · rename_i head rest first
    rw [State.record_conn] at first
    have isHead : s.conn.queue.requests.head? = some head := by rw [first]; rfl
    split at run
    · rename_i isMatch
      split at run
      · rename_i only
        obtain ⟨new, added⟩ := callResult_added (show head.callOf (.ack frame) = _ from rfl) run
        have step := Session.Step.ackedOnly s.conn.queue head rest frame now first isAck isMatch only
        rw [← isHead] at step
        refine ⟨_, records_ending added step ?_ rfl rfl⟩
        simp [Request.ending]
      · rename_i waits
        cases run
        have step := Session.Step.ackedWaits s.conn.queue head rest frame now first isAck isMatch
          (by simpa using waits)
        rw [← isHead] at step
        exact ⟨[.acked head], by simp, .cons step (Session.run_owed _ _ _), .nil (Nat.le_refl _)⟩
    · rename_i noMatch
      cases run
      refine ⟨[], records_ignored now fun _ other isOther => ?_⟩
      rw [isHead] at isOther
      cases isOther
      simpa using noMatch

theorem notify_records {env : Env} {packet : Packet} {node : Subscription} {s s' : State}
    (run : notify env packet node s = some s') : ∃ events, Records s false events s' false := by
  unfold notify at run
  split at run
  · split at run
    · obtain ⟨new, added⟩ := runCallback_added run
      have notified : Records s false [.notified node packet]
          (s.record [.notified node packet]) false :=
        ⟨rfl, .single (.notified _ node packet), .nil (Nat.le_refl _)⟩
      exact ⟨_, notified.trans added.records⟩
    · cases run
      exact ⟨[], .refl _ _⟩
  · cases run
    exact ⟨[], .refl _ _⟩

/-- Subscriptions end no request. The induction is on the rounds. -/
theorem dispatch_records {env : Env} {packet : Packet} {rounds : Nat} {handle : Option Handle}
    {s s' : State} (run : dispatch env packet rounds handle s = some s') :
    ∃ events, Records s false events s' false := by
  induction rounds generalizing handle s with
  | zero =>
    cases handle with
    | none => cases run; exact ⟨[], .refl _ _⟩
    | some handle => cases run
  | succ rounds ih =>
    cases handle with
    | none => cases run; exact ⟨[], .refl _ _⟩
    | some handle =>
      simp only [dispatch, Option.bind_eq_bind, Option.bind_eq_some_iff] at run
      obtain ⟨node, -, t, called, next, -, run⟩ := run
      obtain ⟨events, records⟩ := notify_records called
      obtain ⟨more, later⟩ := ih run
      exact ⟨_, records.trans later⟩

/-- A reply ends the first request. -/
theorem receivePacket_records {env : Env} {packet : Packet} {s s' : State}
    (run : receivePacket env packet s = some s') :
    ∃ events, Records s false (.parsed packet s.conn.queue.requests.head? :: events) s' false := by
  have unexpected (other : ∀ head, s.conn.queue.requests.head? = some head →
      replySpecifierMatches head.expectedReply packet = false) :
      Records s false [.parsed packet s.conn.queue.requests.head?]
        (s.record [.parsed packet s.conn.queue.requests.head?]) false :=
    ⟨rfl, .single (.unexpected _ packet other), .nil (Nat.le_refl _)⟩
  unfold receivePacket at run
  dsimp only at run
  split at run
  · rename_i empty
    rw [State.record_conn] at empty
    obtain ⟨events, records⟩ := dispatch_records run
    refine ⟨events, (unexpected fun head isHead => ?_).trans records⟩
    rw [empty] at isHead
    cases isHead
  · rename_i head rest first
    rw [State.record_conn] at first
    have isHead : s.conn.queue.requests.head? = some head := by rw [first]; rfl
    split at run
    · rename_i isMatch
      obtain ⟨new, added⟩ := callResult_added (show head.callOf (.reply packet) = _ from rfl) run
      have step := Session.Step.replied s.conn.queue head rest packet first isMatch
      rw [← isHead] at step
      refine ⟨_, records_ending added step ?_ rfl rfl⟩
      simp [Request.ending]
    · rename_i noMatch
      obtain ⟨events, records⟩ := dispatch_records run
      refine ⟨events, (unexpected fun other isOther => ?_).trans records⟩
      rw [isHead] at isOther
      cases isOther
      simpa using noMatch

theorem receiveData_records {env : Env} {frame : Frame} {s s' : State} {result : Int}
    (run : receiveData env frame s = some (result, s')) :
    ∃ written events, Records s false (.wroteAck (ackFrame frame) written :: events) s' false := by
  simp only [receiveData, Option.bind_eq_bind, Option.bind_eq_some_iff] at run
  obtain ⟨⟨written, fconn, host⟩, -, ⟨packet, host'⟩, -, run⟩ := run
  have acknowledged : Records s false [.wroteAck (ackFrame frame) written]
      { s with conn := { s.conn with fconn }, host := host',
               log := s.log ++ [.wroteAck (ackFrame frame) written] } false :=
    ⟨rfl, .single (.wroteAck _ _ written), .nil (Nat.le_refl _)⟩
  cases packet with
  | none =>
    cases run
    exact ⟨written, [], acknowledged⟩
  | some packet =>
    simp only [Option.bind_eq_some_iff] at run
    obtain ⟨t, received, run⟩ := run
    cases run
    obtain ⟨events, records⟩ := receivePacket_records received
    exact ⟨written, _, acknowledged.trans records⟩

theorem receiveFrame_records {env : Env} {now : Timespec} {frame : Frame} {s s' : State}
    {result : Int} (run : receiveFrame env now frame s = some (result, s')) :
    ∃ events, Records s false (.received frame s.conn.queue.requests.head? now :: events)
      s' false := by
  unfold receiveFrame at run
  dsimp only at run
  split at run
  · rename_i isAck
    simp only [Option.bind_eq_bind, Option.bind_eq_some_iff] at run
    obtain ⟨t, received, run⟩ := run
    cases run
    exact receiveAck_records isAck received
  · rename_i notAck
    have ignored : Records s false _ _ false :=
      records_ignored now fun isAck => absurd isAck notAck
    split at run
    · obtain ⟨written, events, records⟩ := receiveData_records run
      exact ⟨_, ignored.trans records⟩
    · cases run
      exact ⟨[], ignored⟩

theorem receivePart_records {env : Env} {now : Timespec} {s s' : State} {result : Int}
    (run : receivePart env now s = some (result, s')) :
    ∃ events, Records s false events s' false := by
  unfold receivePart at run
  split at run
  · cases run
  · cases run
    exact ⟨[], .of_same rfl rfl rfl⟩
  · rename_i frame fconn host read
    obtain ⟨events, records⟩ := receiveFrame_records run
    exact ⟨_, records.log, records.run, records.numbered⟩

/-- **A call of `process` refines steps of the abstract queue.** -/
theorem process_records {env : Env} {now : Timespec} {readable writable : Bool} {s s' : State}
    {result : Int} (run : process env now readable writable s = some (result, s')) :
    ∃ events, Records s false events s' false := by
  refine process_related (fun s t => ∃ events, Records s false events t false) ?_
    (fun _ _ _ flush => ⟨[], flushPart_records flush⟩) (fun _ _ _ => sendPart_records)
    (fun _ _ _ => receivePart_records) run
  rintro s t u ⟨events, records⟩ ⟨more, later⟩
  exact ⟨events ++ more, records.trans later⟩

/-! ## Runs -/

theorem call_records {env : Env} {s s' : State} {c : Call} (run : call env s c = some s') :
    ∃ events, Records s false events s' false := by
  cases c with
  | user c =>
    obtain ⟨new, added⟩ := userCall_added run
    exact ⟨_, added.records⟩
  | process now readable writable =>
    obtain ⟨⟨result, t⟩, processed, rfl⟩ := Option.map_eq_some_iff.mp run
    exact process_records processed

/-- A run of the connection is a run of the session. -/
theorem run_records {env : Env} {calls : List Call} {s s' : State}
    (finished : run env calls s = some s') : ∃ events, Records s false events s' false := by
  refine Trace.foldlM_related (fun s t => ∃ events, Records s false events t false)
    (fun s => ⟨[], .refl s false⟩) ?_ (fun _ _ _ _ => call_records) finished
  rintro s t u ⟨events, records⟩ ⟨more, recordsLater⟩
  exact ⟨events ++ more, records.trans recordsLater⟩

/-! ## Closing -/

/-- The end of a round: the first request is freed. -/
def State.freeFirst (head : Request) (s : State) : State :=
  (s.setQueue { s.conn.queue with requests := s.conn.queue.requests.tail }).relink
    (·.free head.handle)

theorem State.freeFirst_requests (head : Request) (s : State) :
    (s.freeFirst head).conn.queue.requests = s.conn.queue.requests.tail := by
  rw [State.freeFirst, State.relink_queue, State.setQueue_queue]

theorem freeRequests_nil {env : Env} {s : State} (rounds : Nat)
    (empty : s.conn.queue.requests = []) : freeRequests env rounds s = some s := by
  rw [freeRequests, empty]

theorem freeRequests_cons {env : Env} {s : State} {head : Request} {rest : List Request}
    (rounds : Nat) (first : s.conn.queue.requests = head :: rest) :
    freeRequests env (rounds + 1) s =
      (callError env head mdrEClosed (s.record [.closing, .finished head .closed])).bind fun t =>
        freeRequests env rounds (t.freeFirst head) := by
  rw [freeRequests, first]
  rfl

/-- What holds at the end of a loop that returns, and before a round when behind it, holds at its
start. -/
theorem freeRequests_rounds {env : Env} {rounds : Nat} {s t : State} (motive : State → Prop)
    (last : t.conn.queue.requests = [] → motive t)
    (round : ∀ s u head rest, s.conn.queue.requests = head :: rest →
      callError env head mdrEClosed (s.record [.closing, .finished head .closed]) = some u →
      motive (u.freeFirst head) → motive s)
    (run : freeRequests env rounds s = some t) : motive s := by
  induction rounds generalizing s with
  | zero =>
    cases waiting : s.conn.queue.requests with
    | nil =>
      rw [freeRequests_nil _ waiting] at run
      cases run
      exact last waiting
    | cons head rest =>
      rw [freeRequests, waiting] at run
      cases run
  | succ rounds ih =>
    cases waiting : s.conn.queue.requests with
    | nil =>
      rw [freeRequests_nil _ waiting] at run
      cases run
      exact last waiting
    | cons head rest =>
      rw [freeRequests_cons rounds waiting, Option.bind_eq_some_iff] at run
      obtain ⟨u, called, run⟩ := run
      exact round s u head rest waiting called (ih run)

/-- A request is freed: what the callback adds goes behind the other requests. -/
theorem freed_records {s t : State} {closing : Bool} {head : Request} {rest new : List Request}
    (first : s.conn.queue.requests = head :: rest)
    (added : Added ((s.record [.closing, .finished head .closed]).record
      ((head.callOf .closed).toList.map .called)) new t) :
    Records s closing (.closing :: head.ending .closed ++ new.map .accepted) (t.freeFirst head)
      true where
  log := by
    rw [State.freeFirst, State.relink_log, State.setQueue_log, added.log]
    simp [Request.ending]
  run := by
    have step := Session.Step.closing s.conn.queue head rest closing first
    have queue : t.conn.queue = { s.conn.queue with requests := s.conn.queue.requests ++ new } :=
      added.queue.trans (RequestQueue.foldl_enqueue_of_cons first new)
    have freed := Session.foldl_add_closing { s.conn.queue with requests := rest } new
    refine .append (.cons step (Session.run_owed _ _ _)) ?_
    rw [State.session, State.freeFirst, State.relink_queue, State.setQueue_queue, queue, first,
      List.cons_append, List.tail_cons]
    rw [← freed]
    exact Session.run_accepted _ true added.unsent
  numbered := by
    rw [acceptedIn_append, acceptedIn_map_accepted]
    change Numbered (acceptedIn (head.ending .closed) ++ new) _ _
    rw [acceptedIn_ending]
    exact added.numbered

/-- The queue is empty when `mdr_packetconn_free_self` is done with it. -/
theorem freeRequests_records {env : Env} {rounds : Nat} {s s' : State} (closing : Bool)
    (run : freeRequests env rounds s = some s') :
    ∃ events closing', Records s closing events s' closing' ∧ s'.conn.queue.requests = [] := by
  refine freeRequests_rounds (fun s => ∀ closing, ∃ events closing',
    Records s closing events s' closing' ∧ s'.conn.queue.requests = []) ?_ ?_ run closing
  · exact fun empty closing => ⟨[], closing, .refl _ _, empty⟩
  · intro s t head rest first called later closing
    obtain ⟨new, added⟩ := callError_added (show head.callOf .closed = _ from rfl) called
    obtain ⟨more, closing', records, empty⟩ := later true
    exact ⟨_, closing', (freed_records first added).trans records, empty⟩

/-- **Closing refines**: what is left in the queue ends closed. -/
theorem close_records {env : Env} {s s' : State} (run : close env s = some s') :
    ∃ events closing', Records s false events s' closing' ∧ s'.conn.queue.requests = [] := by
  simp only [close, Option.bind_eq_bind, Option.bind_eq_some_iff] at run
  obtain ⟨t, freed, run⟩ := run
  cases run
  obtain ⟨events, closing', records, empty⟩ := freeRequests_records false freed
  exact ⟨events, closing', ⟨records.log, records.run, records.numbered⟩, empty⟩

end Libmdr
