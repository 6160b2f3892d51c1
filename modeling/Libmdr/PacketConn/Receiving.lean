import Libmdr.PacketConn.Dispatch

/-!
# What a received frame does

The receive half of `mdr_packetconn_process_by_availability` in a connection that
has run for any time: which frames are acted on, and what becomes of the packet
of a data frame. It looks at the data type, at the sequence id of an ACK and at
the packet; not at the checksum, nor at the frame before.
-/

namespace Libmdr
set_option autoImplicit false

/-! ## Calls in a run -/

/-- A call of `process` that reads a frame: the state in which the frame is acted
on, and the state when the call returns. -/
structure Receipt where
  frame : Frame
  before : State
  result : Int
  after : State
  deriving DecidableEq, Repr

/-- After calls on a new connection, one more that reads a frame. -/
def receipt (env : Env) (calls : List Call) (fconn : FrameConn) (host : Host) (now : Timespec)
    (writable : Bool) : Option Receipt := do
  let s ← run env calls (State.start fconn host)
  match ← readsFrame env now writable s with
  | (none, _) => none
  | (some frame, before) =>
    let (result, after) ← process env now true writable s
    return { frame, before, result, after }

/-- What the call adds to the record, from the frame on. -/
def Receipt.events (r : Receipt) : List Event := r.after.log.drop r.before.log.length

theorem Receipt.events_eq {r : Receipt} {events : List Event}
    (log : r.after.log = r.before.log ++ events) : r.events = events := by
  rw [Receipt.events, log, List.drop_left]

/-- The packet that `mdr_packet_from_frame` gives for a data frame, behind the ACK. -/
def parsedPacket (env : Env) (frame : Frame) (s : State) : Option Packet := do
  let (_, _, host) ← s.conn.fconn.writeFrame env.heap s.host (ackFrame frame)
  (← Packet.fromFrame env.heap frame host).1

theorem receipt_acts {env : Env} {calls : List Call} {fconn : FrameConn} {host : Host}
    {now : Timespec} {writable : Bool} {r : Receipt}
    (received : receipt env calls fconn host now writable = some r) :
    receiveFrame env now r.frame r.before = some (r.result, r.after) ∧ r.before.Ordered := by
  simp only [receipt, Option.bind_eq_bind, Option.bind_eq_some_iff] at received
  obtain ⟨s, ran, ⟨frame, before⟩, reads, received⟩ := received
  cases frame with
  | none => cases received
  | some frame =>
    simp only [Option.bind_eq_some_iff] at received
    obtain ⟨⟨result, after⟩, processed, received⟩ := received
    cases received
    rw [process_of_readsFrame reads] at processed
    refine ⟨processed, ?_⟩
    exact ordered_invariant.readsFrame reads (ordered_invariant.run ran (ordered_start fconn host))

/-! ## Data frames -/

/-- A data frame is acknowledged, and its packet acted on. -/
theorem receiveFrame_data {env : Env} {now : Timespec} {frame : Frame} {s s' : State} {result : Int}
    (data : frame.dataType = frameDataTypeDataMdr)
    (run : receiveFrame env now frame s = some (result, s')) :
    ∃ written u, u.log = s.log ++ [.received frame s.conn.queue.requests.head? now,
        .wroteAck (ackFrame frame) written] ∧
      u.conn.queue = s.conn.queue ∧ u.conn.subscriptions = s.conn.subscriptions ∧
      u.nextHandle = s.nextHandle ∧
      (parsedPacket env frame s = none ∧ s' = u ∨
        ∃ packet, parsedPacket env frame s = some packet ∧ receivePacket env packet u = some s') := by
  have notAck : frame.dataType ≠ frameDataTypeAck := by
    rw [data]
    decide
  simp only [receiveFrame, if_neg notAck, if_pos data, receiveData, Option.bind_eq_bind,
    Option.bind_eq_some_iff] at run
  obtain ⟨⟨written, fconn, host⟩, wrote, ⟨packet, host'⟩, parsed, run⟩ := run
  have same : parsedPacket env frame s = packet := by
    change s.conn.fconn.writeFrame env.heap s.host (ackFrame frame) = _ at wrote
    change Packet.fromFrame env.heap frame host = _ at parsed
    simp only [parsedPacket, wrote, Option.bind_eq_bind, Option.bind_some, parsed]
  have log (events : List Event) : s.log ++ [.received frame s.conn.queue.requests.head? now] ++
      events = s.log ++ .received frame s.conn.queue.requests.head? now :: events := by
    rw [List.append_assoc]
    rfl
  cases packet with
  | none =>
    cases run
    refine ⟨written, _, ?_, ?_, ?_, ?_, .inl ⟨same, rfl⟩⟩
    · exact log _
    all_goals rfl
  | some packet =>
    simp only [Option.bind_eq_some_iff] at run
    obtain ⟨t, received, run⟩ := run
    cases run
    refine ⟨written, _, ?_, ?_, ?_, ?_, .inr ⟨packet, same, received⟩⟩
    · exact log _
    all_goals rfl

/-- The packet of the first request's reply ends it. -/
theorem receivePacket_reply {env : Env} {packet : Packet} {s s' : State} {head : Request}
    {rest : List Request} (first : s.conn.queue.requests = head :: rest)
    (isMatch : replySpecifierMatches head.expectedReply packet = true)
    (run : receivePacket env packet s = some s') :
    ∃ events, s'.log = s.log ++ .parsed packet (some head) :: events ∧
      (head, .reply packet) ∈ finishedIn events := by
  unfold receivePacket at run
  simp only [State.record_conn, first, List.head?_cons, isMatch, if_true] at run
  obtain ⟨new, added⟩ := callResult_added (show head.callOf (.reply packet) = _ from rfl) run
  refine ⟨head.ending (.reply packet) ++ new.map .accepted, ?_, ?_⟩
  · rw [added.log]
    simp [Request.ending]
  · simp

/-- Any other packet goes to the subscriptions. -/
theorem receivePacket_other {env : Env} {packet : Packet} {s s' : State} (ordered : s.Ordered)
    (other : ∀ head, s.conn.queue.requests.head? = some head →
      replySpecifierMatches head.expectedReply packet = false)
    (run : receivePacket env packet s = some s') :
    ∃ events, s'.log = s.log ++ .parsed packet s.conn.queue.requests.head? :: events ∧
      KeepsRequests s events s' ∧ Routed packet s events s' := by
  have dispatched : dispatch env packet env.limit
      (s.conn.subscriptions.head?.map Subscription.handle)
      (s.record [.parsed packet s.conn.queue.requests.head?]) = some s' := by
    unfold receivePacket at run
    dsimp only at run
    split at run
    · exact run
    · rename_i head rest first
      rw [State.record_conn] at first
      have noMatch := other head (by rw [first]; rfl)
      rw [noMatch, if_neg Bool.false_ne_true] at run
      exact run
  have orderedRecord : (s.record [.parsed packet s.conn.queue.requests.head?]).Ordered :=
    (State.NoRead.record _ _).ordered ordered
  obtain ⟨events, log, keeps, routed⟩ := dispatch_routed orderedRecord dispatched
  refine ⟨events, ?_, ⟨keeps.finishes, keeps.queue⟩, ⟨routed.only, routed.once, routed.all,
    routed.idle, routed.silent⟩⟩
  rw [log, State.record_log, List.append_assoc]
  rfl

/-- What a data frame can come to. -/
inductive DataEnd (env : Env) (r : Receipt) (events : List Event) : Prop
  | unparsed (parsed : parsedPacket env r.frame r.before = none) (nothing : events = [])
      (queue : r.after.conn.queue = r.before.conn.queue)
  | other (packet : Packet) (parsed : parsedPacket env r.frame r.before = some packet)
      (noMatch : ∀ head, r.before.conn.queue.requests.head? = some head →
        replySpecifierMatches head.expectedReply packet = false)
      (keeps : KeepsRequests r.before events r.after) (routed : Routed packet r.before events r.after)
  | reply (packet : Packet) (head : Request)
      (parsed : parsedPacket env r.frame r.before = some packet)
      (isHead : r.before.conn.queue.requests.head? = some head)
      (isMatch : replySpecifierMatches head.expectedReply packet = true)
      (ends : (head, .reply packet) ∈ finishedIn events)

/-- A data frame in a run: it is acknowledged, and then one of three things happens. -/
theorem data_outcome {env : Env} {calls : List Call} {fconn : FrameConn} {host : Host}
    {now : Timespec} {writable : Bool} {r : Receipt}
    (received : receipt env calls fconn host now writable = some r)
    (data : r.frame.dataType = frameDataTypeDataMdr) :
    ∃ written events, r.after.log = r.before.log ++
      .received r.frame r.before.conn.queue.requests.head? now ::
      .wroteAck (ackFrame r.frame) written :: events ∧ DataEnd env r events := by
  obtain ⟨run, ordered⟩ := receipt_acts received
  obtain ⟨written, u, log, queue, subscriptions, handles, next⟩ := receiveFrame_data data run
  rcases next with ⟨parsed, same⟩ | ⟨packet, parsed, run⟩
  · exact ⟨written, [], by rw [same, log], .unparsed parsed rfl (by rw [same, queue])⟩
  · have orderedThen : u.Ordered := by
      constructor
      · rw [subscriptions]
        exact ordered.increasing
      · rw [subscriptions, handles]
        exact ordered.bounded
    by_cases fits : ∃ head rest, r.before.conn.queue.requests = head :: rest ∧
        replySpecifierMatches head.expectedReply packet = true
    · obtain ⟨head, rest, first, isMatch⟩ := fits
      obtain ⟨events, more, ends⟩ := receivePacket_reply (by rw [queue, first]) isMatch run
      refine ⟨written, .parsed packet (some head) :: events, ?_, ?_⟩
      · rw [more, log, List.append_assoc]
        rfl
      · exact .reply packet head parsed (by rw [first]; rfl) isMatch ends
    · have other : ∀ head, r.before.conn.queue.requests.head? = some head →
          replySpecifierMatches head.expectedReply packet = false := by
        intro head isHead
        obtain ⟨rest, first⟩ := List.head?_eq_some_iff.mp isHead
        by_contra isMatch
        exact fits ⟨head, rest, first, by simpa using isMatch⟩
      obtain ⟨events, more, ⟨finishes, kept⟩, only, once, all, idle, silent⟩ :=
        receivePacket_other orderedThen (by rw [queue]; exact other) run
      rw [queue] at kept more
      rw [subscriptions] at all idle silent
      refine ⟨written, .parsed packet r.before.conn.queue.requests.head? :: events, ?_, ?_⟩
      · rw [more, log, List.append_assoc]
        rfl
      · exact .other packet parsed other ⟨finishes, kept⟩
          ⟨only, once, all, idle, silent⟩

/-! ## Requests that only wait for an ACK -/

/-- A data frame is left to the subscriptions: no request ends, the queue only
gets new requests at its end, and the packet goes to the subscriptions. -/
def LeftToSubscriptions (env : Env) (r : Receipt) : Prop :=
  ∃ events, r.after.log = r.before.log ++ events ∧ finishedIn events = [] ∧
    (∃ new, r.after.conn.queue =
      { r.before.conn.queue with requests := r.before.conn.queue.requests ++ new }) ∧
    ∀ packet, parsedPacket env r.frame r.before = some packet → Routed packet r.before events r.after

/-- A first request that only waits for its ACK has nothing to do with the frame. -/
def KeepsOnlyAck (env : Env) (r : Receipt) : Prop :=
  ∀ head, r.before.conn.queue.requests.head? = some head → head.expectedReply.onlyAck = true →
    LeftToSubscriptions env r

theorem RoutedFrom.prepend {first : Handle} {packet : Packet} {s s' : State}
    {before events : List Event} (routed : RoutedFrom first packet s events s')
    (quiet : notifiedIn before = []) : RoutedFrom first packet s (before ++ events) s' := by
  have same : notifiedIn (before ++ events) = notifiedIn events := by
    rw [notifiedIn_append, quiet, List.nil_append]
  obtain ⟨only, once, all, idle, silent⟩ := routed
  constructor <;> rw [same] <;> assumption

/-- **When a request with `only_ack` is left to its ACK.** In any run a data frame
leaves a first request that only waits for its ACK alone, and goes to the
subscriptions, exactly when its packet does not match the fields that `only_ack`
should have made irrelevant. -/
theorem keepsOnlyAck_iff {env : Env} {calls : List Call} {fconn : FrameConn} {host : Host}
    {now : Timespec} {writable : Bool} {r : Receipt}
    (received : receipt env calls fconn host now writable = some r)
    (data : r.frame.dataType = frameDataTypeDataMdr) :
    KeepsOnlyAck env r ↔
      ∀ head, r.before.conn.queue.requests.head? = some head →
        head.expectedReply.onlyAck = true →
          ∀ packet, parsedPacket env r.frame r.before = some packet →
            replySpecifierMatches head.expectedReply packet = false := by
  obtain ⟨written, events, log, outcome⟩ := data_outcome received data
  refine forall_congr' fun head => forall_congr' fun isHead => forall_congr' fun _ => ?_
  obtain ⟨rest, first⟩ := List.head?_eq_some_iff.mp isHead
  -- What the call records before it acts on the packet ends no request and calls nothing.
  have early (xs : List Event) : [.received r.frame r.before.conn.queue.requests.head? now,
      .wroteAck (ackFrame r.frame) written] ++ xs = .received r.frame
        r.before.conn.queue.requests.head? now :: .wroteAck (ackFrame r.frame) written :: xs := rfl
  rw [← early] at log
  cases outcome with
  | unparsed parsed nothing queue =>
    subst nothing
    refine ⟨fun _ packet isPacket => ?_, fun _ => ⟨_, log, rfl, ⟨[], ?_⟩, fun packet isPacket => ?_⟩⟩
    · rw [parsed] at isPacket
      cases isPacket
    · rw [queue, List.append_nil]
    · rw [parsed] at isPacket
      cases isPacket
  | other packet parsed noMatch keeps routed =>
    have only {p : Packet} (isPacket : parsedPacket env r.frame r.before = some p) :
        packet = p := by
      rw [parsed] at isPacket
      exact Option.some.inj isPacket
    refine ⟨fun _ p isPacket => ?_, fun _ => ⟨_, log, ?_, ?_, fun p isPacket => ?_⟩⟩
    · rw [← only isPacket]
      exact noMatch head isHead
    · rw [finishedIn_append, keeps.finishes]
      rfl
    · obtain ⟨new, queue⟩ := keeps.queue
      exact ⟨new, by rw [queue, RequestQueue.foldl_enqueue_of_cons first]⟩
    · rw [← only isPacket]
      exact routed.prepend rfl
  | reply packet other parsed isOther isMatch ends =>
    rw [isHead] at isOther
    cases isOther
    refine ⟨fun left => ?_, fun noMatch => ?_⟩
    · obtain ⟨events', log', finishes, -⟩ := left
      rw [log] at log'
      rw [← List.append_cancel_left log', finishedIn_append, List.append_eq_nil_iff] at finishes
      rw [finishes.2] at ends
      cases ends
    · rw [noMatch packet parsed] at isMatch
      cases isMatch

/-- A request whose ACK is still to come, and a packet of another type. -/
theorem keepsOnlyAck_iff_power_off :
    ∃ r, receipt Env.idle [.user powerOff, .process ⟨0, 0⟩ false true] .fresh (.listing
        [.data [0x3e, 0x0c, 1, 0, 0, 0, 4, 1, 0, 1, 2, 0x15, 0x3c]] [.wrote 100, .wrote 100])
        ⟨0, 0⟩ true = some r ∧ r.before.conn.queue.requests.length = 1 ∧
      (KeepsOnlyAck Env.idle r ↔
        ∀ head, r.before.conn.queue.requests.head? = some head →
          head.expectedReply.onlyAck = true →
            ∀ packet, parsedPacket Env.idle r.frame r.before = some packet →
              replySpecifierMatches head.expectedReply packet = false) := by
  obtain ⟨r, received, both⟩ := (Option.any_eq_true _ _).mp (show (receipt Env.idle
    [.user powerOff, .process ⟨0, 0⟩ false true] .fresh (.listing
      [.data [0x3e, 0x0c, 1, 0, 0, 0, 4, 1, 0, 1, 2, 0x15, 0x3c]] [.wrote 100, .wrote 100])
      ⟨0, 0⟩ true).any (fun r => decide (r.frame.dataType = frameDataTypeDataMdr) &&
        decide (r.before.conn.queue.requests.length = 1)) = true by decide +kernel)
  obtain ⟨data, waits⟩ := Bool.and_eq_true_iff.mp both
  exact ⟨r, received, of_decide_eq_true waits, keepsOnlyAck_iff received (of_decide_eq_true data)⟩

/-- The specifier of `mdr_device_power_off` leaves the packet type at 0, which is
that of `connect_get_protocol_info`: such a packet completes the request. -/
theorem not_keepsOnlyAck_power_off :
    ∃ r, receipt Env.idle [.user powerOff, .process ⟨0, 0⟩ false true] .fresh (.listing
        [.data [0x3e, 0x0c, 0, 0, 0, 0, 2, 0, 0, 0x0e, 0x3c]] [.wrote 100, .wrote 100])
        ⟨0, 0⟩ true = some r ∧ r.frame.dataType = frameDataTypeDataMdr ∧
      ¬ KeepsOnlyAck Env.idle r := by
  obtain ⟨r, received, both⟩ := (Option.any_eq_true _ _).mp (show (receipt Env.idle
    [.user powerOff, .process ⟨0, 0⟩ false true] .fresh (.listing
      [.data [0x3e, 0x0c, 0, 0, 0, 0, 2, 0, 0, 0x0e, 0x3c]] [.wrote 100, .wrote 100])
      ⟨0, 0⟩ true).any (fun r => decide (r.frame.dataType = frameDataTypeDataMdr) &&
        (!(finishedIn r.events).isEmpty &&
          r.before.conn.queue.requests.head?.any fun head => head.expectedReply.onlyAck)) = true
      by decide +kernel)
  obtain ⟨data, both⟩ := Bool.and_eq_true_iff.mp both
  obtain ⟨ends, first⟩ := Bool.and_eq_true_iff.mp both
  obtain ⟨head, isHead, only⟩ := (Option.any_eq_true _ _).mp first
  refine ⟨r, received, of_decide_eq_true data, fun keeps => ?_⟩
  obtain ⟨events, log, finishes, -⟩ := keeps head isHead only
  rw [Receipt.events_eq log, finishes] at ends
  cases ends

/-! ## Frames that come again -/

/-- A data frame fits something: its packet is the reply of the first request, or
one that a subscription asks for. -/
def FitsSomething (env : Env) (r : Receipt) : Prop :=
  ∃ packet, parsedPacket env r.frame r.before = some packet ∧
    ((∃ head, r.before.conn.queue.requests.head? = some head ∧
        replySpecifierMatches head.expectedReply packet = true) ∨
      ∃ subscription ∈ r.before.conn.subscriptions, subscription.Wants packet = true)

/-- A data frame is acknowledged, and ends no request and calls no subscription. -/
def OnlyAcknowledged (now : Timespec) (r : Receipt) : Prop :=
  ∃ written events, r.after.log = r.before.log ++
    .received r.frame r.before.conn.queue.requests.head? now ::
    .wroteAck (ackFrame r.frame) written :: events ∧ finishedIn events = [] ∧ notifiedIn events = []

/-- The last data frame that was received. -/
def lastDataFrame (log : List Event) : Option Frame :=
  (log.filterMap fun
    | .received frame _ _ => if frame.dataType = frameDataTypeDataMdr then some frame else none
    | _ => none).getLast?

/-- The frame is a data frame that repeats the one before it. -/
def Repeats (r : Receipt) : Prop := lastDataFrame r.before.log = some r.frame

instance (r : Receipt) : Decidable (Repeats r) :=
  inferInstanceAs (Decidable (lastDataFrame r.before.log = some r.frame))

/-- **For a data frame that comes again an ACK is handed over again**, whatever
`mdr_frameconn_write_frame` returns for it, and it is acted on again as if it were
new: it has no other effect exactly when it fits neither the first request nor a
subscription at that moment. -/
theorem data_frame_acknowledged {env : Env} {calls : List Call} {fconn : FrameConn} {host : Host}
    {now : Timespec} {writable : Bool} {r : Receipt}
    (received : receipt env calls fconn host now writable = some r)
    (data : r.frame.dataType = frameDataTypeDataMdr) :
    (∃ written events, r.after.log = r.before.log ++
      .received r.frame r.before.conn.queue.requests.head? now ::
      .wroteAck (ackFrame r.frame) written :: events) ∧
      (OnlyAcknowledged now r ↔ ¬ FitsSomething env r) := by
  obtain ⟨written, events, log, outcome⟩ := data_outcome received data
  refine ⟨⟨written, events, log⟩, ?_⟩
  have only : OnlyAcknowledged now r ↔ finishedIn events = [] ∧ notifiedIn events = [] := by
    constructor
    · rintro ⟨written', events', log', effects⟩
      rw [log] at log'
      cases List.append_cancel_left log'
      exact effects
    · exact fun effects => ⟨written, events, log, effects⟩
  rw [only]
  cases outcome with
  | unparsed parsed nothing queue =>
    subst nothing
    refine iff_of_true ⟨rfl, rfl⟩ ?_
    rintro ⟨packet, isPacket, -⟩
    rw [parsed] at isPacket
    cases isPacket
  | other packet parsed noMatch keeps routed =>
    constructor
    · rintro ⟨-, silent⟩ ⟨p, isPacket, fits⟩
      rw [parsed] at isPacket
      cases isPacket
      rcases fits with ⟨head, isHead, isMatch⟩ | ⟨subscription, isIn, wants⟩
      · rw [noMatch head isHead] at isMatch
        cases isMatch
      · have stays : subscription ∈ r.after.conn.subscriptions := by
          rw [routed.idle silent]
          exact isIn
        have called := routed.all subscription isIn (Nat.zero_le _) wants stays
        rw [silent] at called
        cases called
    · intro nothing
      refine ⟨keeps.finishes, routed.silent fun subscription isIn _ => ?_⟩
      by_contra wants
      exact nothing ⟨packet, parsed, .inr ⟨subscription, isIn, by simpa using wants⟩⟩
  | reply packet head parsed isHead isMatch ends =>
    apply iff_of_false
    · rintro ⟨finishes, -⟩
      rw [finishes] at ends
      cases ends
    · exact not_not_intro ⟨packet, parsed, .inl ⟨head, isHead, isMatch⟩⟩

/-- A subscription to the protocol's version. -/
def subscribeProtocolInfo : UserCall :=
  .subscribe { onlyAck := false, packetType := .connectRetProtocolInfo, extra := 0 } (some 0) 0

/-- The second of two equal data frames, for a subscription. -/
theorem data_frame_acknowledged_again :
    ∃ r, receipt Env.idle [.user subscribeProtocolInfo, .process ⟨0, 0⟩ true true] .fresh (.listing
        [.data [0x3e, 0x0c, 1, 0, 0, 0, 4, 1, 0, 1, 2, 0x15, 0x3c],
          .data [0x3e, 0x0c, 1, 0, 0, 0, 4, 1, 0, 1, 2, 0x15, 0x3c]] [.wrote 100, .wrote 100])
        ⟨0, 0⟩ true = some r ∧ Repeats r ∧
      (∃ written events, r.after.log = r.before.log ++
        .received r.frame r.before.conn.queue.requests.head? ⟨0, 0⟩ ::
        .wroteAck (ackFrame r.frame) written :: events) ∧
        (OnlyAcknowledged ⟨0, 0⟩ r ↔ ¬ FitsSomething Env.idle r) := by
  obtain ⟨r, received, both⟩ := (Option.any_eq_true _ _).mp (show (receipt Env.idle
    [.user subscribeProtocolInfo, .process ⟨0, 0⟩ true true] .fresh (.listing
      [.data [0x3e, 0x0c, 1, 0, 0, 0, 4, 1, 0, 1, 2, 0x15, 0x3c],
        .data [0x3e, 0x0c, 1, 0, 0, 0, 4, 1, 0, 1, 2, 0x15, 0x3c]] [.wrote 100, .wrote 100])
      ⟨0, 0⟩ true).any (fun r => decide (r.frame.dataType = frameDataTypeDataMdr) &&
        decide (lastDataFrame r.before.log = some r.frame)) = true by decide +kernel)
  obtain ⟨data, again⟩ := Bool.and_eq_true_iff.mp both
  exact ⟨r, received, of_decide_eq_true again,
    data_frame_acknowledged received (of_decide_eq_true data)⟩

/-- The callback of a subscription is called again for a data frame that comes again. -/
theorem not_onlyAcknowledged_again :
    ∃ r, receipt Env.idle [.user subscribeProtocolInfo, .process ⟨0, 0⟩ true true] .fresh (.listing
        [.data [0x3e, 0x0c, 1, 0, 0, 0, 4, 1, 0, 1, 2, 0x15, 0x3c],
          .data [0x3e, 0x0c, 1, 0, 0, 0, 4, 1, 0, 1, 2, 0x15, 0x3c]] [.wrote 100, .wrote 100])
        ⟨0, 0⟩ true = some r ∧ Repeats r ∧ ¬ OnlyAcknowledged ⟨0, 0⟩ r := by
  obtain ⟨r, received, both⟩ := (Option.any_eq_true _ _).mp (show (receipt Env.idle
    [.user subscribeProtocolInfo, .process ⟨0, 0⟩ true true] .fresh (.listing
      [.data [0x3e, 0x0c, 1, 0, 0, 0, 4, 1, 0, 1, 2, 0x15, 0x3c],
        .data [0x3e, 0x0c, 1, 0, 0, 0, 4, 1, 0, 1, 2, 0x15, 0x3c]] [.wrote 100, .wrote 100])
      ⟨0, 0⟩ true).any (fun r => decide (lastDataFrame r.before.log = some r.frame) &&
        !(notifiedIn r.events).isEmpty) = true by decide +kernel)
  obtain ⟨again, called⟩ := Bool.and_eq_true_iff.mp both
  refine ⟨r, received, of_decide_eq_true again, fun only => ?_⟩
  obtain ⟨written, events, log, -, silent⟩ := only
  have none : notifiedIn r.events = [] := by
    rw [Receipt.events_eq log]
    exact silent
  rw [none] at called
  cases called

/-! ## Frames with a wrong checksum -/

/-- The checksum byte of the frame is not the frame's checksum. -/
def Frame.Corrupted (frame : Frame) : Prop := frame.checksum ≠ some frame.computeChecksum

instance (frame : Frame) : Decidable frame.Corrupted :=
  inferInstanceAs (Decidable (frame.checksum ≠ some frame.computeChecksum))

/-- Events that a frame can cause: a request is marked as acknowledged or ends, a
subscription is called, an ACK is written. -/
def Event.isEffect : Event → Bool
  | .acked _ | .finished _ _ | .notified _ _ | .wroteAck _ _ => true
  | _ => false

/-- The frame is not acted on: nothing is written, called or marked. -/
def NotActedOn (r : Receipt) : Prop :=
  (∃ events, r.after.log = r.before.log ++ events ∧ ∀ event ∈ events, event.isEffect = false) ∧
    r.after.conn = r.before.conn ∧ r.after.host = r.before.host

/-- An ACK that fits the first request has an effect. -/
theorem receiveAck_effect {env : Env} {now : Timespec} {frame : Frame} {s s' : State}
    {head : Request} {rest : List Request} (first : s.conn.queue.requests = head :: rest)
    (isMatch : ackMatches frame head = true) (run : receiveAck env now frame s = some s') :
    ∃ event more, s'.log = s.log ++ event :: more ∧ event.isEffect = true := by
  simp only [receiveAck, first, isMatch, if_true] at run
  split at run
  · obtain ⟨new, added⟩ := callResult_added (show head.callOf (.ack frame) = _ from rfl) run
    refine ⟨.finished head (.ack frame),
      (head.callOf (.ack frame)).toList.map .called ++ new.map .accepted, ?_, rfl⟩
    rw [added.log]
    simp
  · cases run
    exact ⟨.acked head, [], rfl, rfl⟩

/-- **When a corrupted frame is not acted on**: exactly when its data type and
sequence id already make it of no interest. The checksum is not looked at. -/
theorem corrupted_not_acted_on_iff {env : Env} {calls : List Call} {fconn : FrameConn} {host : Host}
    {now : Timespec} {writable : Bool} {r : Receipt}
    (received : receipt env calls fconn host now writable = some r) :
    (r.frame.Corrupted → NotActedOn r) ↔
      (r.frame.Corrupted → r.frame.dataType ≠ frameDataTypeDataMdr ∧
        (r.frame.dataType = frameDataTypeAck → ∀ head,
          r.before.conn.queue.requests.head? = some head → ackMatches r.frame head = false)) := by
  refine imp_congr_right fun _ => ?_
  have acts := (receipt_acts received).1
  -- An event with an effect behind the one that records the frame.
  have acted {event : Event} {more : List Event}
      (log : r.after.log = r.before.log ++
        .received r.frame r.before.conn.queue.requests.head? now :: event :: more)
      (effect : event.isEffect = true) : ¬ NotActedOn r := by
    rintro ⟨⟨events, log', none⟩, -⟩
    rw [log] at log'
    rw [none event (by rw [← List.append_cancel_left log']; simp)] at effect
    cases effect
  constructor
  · intro still
    constructor
    · intro data
      obtain ⟨written, events, log, -⟩ := data_outcome received data
      exact acted log rfl still
    · intro isAck head isHead
      by_contra isMatch
      rw [Bool.not_eq_false] at isMatch
      obtain ⟨rest, first⟩ := List.head?_eq_some_iff.mp isHead
      simp only [receiveFrame, if_pos isAck, Option.bind_eq_bind, Option.bind_eq_some_iff] at acts
      obtain ⟨t, run, same⟩ := acts
      obtain ⟨-, rfl⟩ := Prod.mk.inj (Option.some.inj same)
      obtain ⟨event, more, log, effect⟩ := receiveAck_effect (by exact first) isMatch run
      rw [State.record_log, List.append_assoc] at log
      exact acted log effect still
  · rintro ⟨notData, noMatch⟩
    have after : r.after = r.before.record
        [.received r.frame r.before.conn.queue.requests.head? now] := by
      by_cases isAck : r.frame.dataType = frameDataTypeAck
      · simp only [receiveFrame, if_pos isAck, Option.bind_eq_bind, Option.bind_eq_some_iff] at acts
        obtain ⟨t, run, same⟩ := acts
        obtain ⟨-, rfl⟩ := Prod.mk.inj (Option.some.inj same)
        unfold receiveAck at run
        split at run
        · exact (Option.some.inj run).symm
        · rename_i head rest first
          rw [State.record_conn] at first
          rw [noMatch isAck head (by rw [first]; rfl), if_neg Bool.false_ne_true] at run
          exact (Option.some.inj run).symm
      · simp only [receiveFrame, if_neg isAck, if_neg notData] at acts
        exact (Prod.mk.inj (Option.some.inj acts)).2.symm
    rw [NotActedOn, after]
    refine ⟨⟨_, rfl, fun event isIn => ?_⟩, rfl, rfl⟩
    rw [List.mem_singleton.mp isIn]
    rfl

/-- A corrupted ACK that no request waits for. -/
theorem corrupted_not_acted_on_iff_power_off :
    ∃ r, receipt Env.idle [.user powerOff, .process ⟨0, 0⟩ false true] .fresh (.listing
        [.data [0x3e, 1, 7, 0, 0, 0, 0, 0x55, 0x3c]] [.wrote 100]) ⟨0, 0⟩ false = some r ∧
      r.frame.Corrupted ∧
      ((r.frame.Corrupted → NotActedOn r) ↔
        (r.frame.Corrupted → r.frame.dataType ≠ frameDataTypeDataMdr ∧
          (r.frame.dataType = frameDataTypeAck → ∀ head,
            r.before.conn.queue.requests.head? = some head → ackMatches r.frame head = false))) := by
  obtain ⟨r, received, corrupted⟩ := (Option.any_eq_true _ _).mp (show (receipt Env.idle
    [.user powerOff, .process ⟨0, 0⟩ false true] .fresh (.listing
      [.data [0x3e, 1, 7, 0, 0, 0, 0, 0x55, 0x3c]] [.wrote 100]) ⟨0, 0⟩ false).any
      (fun r => decide (r.frame.checksum ≠ some r.frame.computeChecksum)) = true by decide +kernel)
  exact ⟨r, received, of_decide_eq_true corrupted, corrupted_not_acted_on_iff received⟩

/-- An ACK with a wrong checksum completes a request. -/
theorem corrupted_ack_acted_on :
    ∃ r, receipt Env.idle [.user powerOff, .process ⟨0, 0⟩ false true] .fresh (.listing
        [.data [0x3e, 1, 1, 0, 0, 0, 0, 0x55, 0x3c]] [.wrote 100]) ⟨0, 0⟩ false = some r ∧
      r.frame.Corrupted ∧ ¬ NotActedOn r := by
  obtain ⟨r, received, both⟩ := (Option.any_eq_true _ _).mp (show (receipt Env.idle
    [.user powerOff, .process ⟨0, 0⟩ false true] .fresh (.listing
      [.data [0x3e, 1, 1, 0, 0, 0, 0, 0x55, 0x3c]] [.wrote 100]) ⟨0, 0⟩ false).any
      (fun r => decide (r.frame.checksum ≠ some r.frame.computeChecksum) &&
        r.events.any Event.isEffect) = true by decide +kernel)
  obtain ⟨corrupted, effects⟩ := Bool.and_eq_true_iff.mp both
  obtain ⟨event, isIn, effect⟩ := List.any_eq_true.mp effects
  refine ⟨r, received, of_decide_eq_true corrupted, ?_⟩
  rintro ⟨⟨events, log, none⟩, -⟩
  rw [Receipt.events_eq log] at isIn
  rw [none event isIn] at effect
  cases effect

end Libmdr
