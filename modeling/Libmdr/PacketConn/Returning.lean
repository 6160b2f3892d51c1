import Libmdr.FrameConn.Flushing
import Libmdr.PacketConn.Subscriptions

/-!
# When a call returns

`mdr_packetconn_process_by_availability` makes up to four calls on its frame connection: the
flush, the write of the first request, the read, and the write of an ACK. With callbacks that
return it returns when these do, and when the loop over the subscriptions does, in which callbacks
are called. What ends the four calls can be told from the buffers and from what the socket does.
-/

namespace Libmdr
set_option autoImplicit false

/-! ## How far a call gets -/

/-- The state in which the send half of a call begins: nothing is flushed, or the flush does not
fail for good. -/
inductive AtSend (writable : Bool) (s : State) : State → Prop
  | unflushed (notWritable : writable = false) : AtSend writable s s
  | flushed {result : Int} {fconn : FrameConn} {host : Host} (isWritable : writable = true)
      (call : s.conn.fconn.flushWrite s.host = some (result, fconn, host))
      (goesOn : result < 0 → Harmless host.errno) : AtSend writable s (s.afterRead fconn host)

/-- The first request was sent, is late, and is not sent again. -/
def Spent (now : Timespec) (head : Request) : Prop :=
  head.attempts ≠ 0 ∧ 0 < timespecCompare now head.timeout ∧
    (head.acked ∨ packetMaxTries ≤ head.attempts)

/-- What a write of the first request leaves. -/
def State.wrote (s : State) (now : Timespec) (head : Request) (result : Int) (fconn : FrameConn)
    (host : Host) : State :=
  if result < 0 then (s.afterRead fconn host).record [.wrote head result now]
  else ((s.afterRead fconn host).record [.wrote head result now]).setQueue
    (s.conn.queue.mapHead (Request.sent now))

/-- The state in which a call begins to read: the first request is written and that does not fail
for good, it is given up, or it is left as it is. -/
inductive AtRead (env : Env) (now : Timespec) (writable : Bool) (s : State) : State → Prop
  | written {head : Request} {rest : List Request} {result : Int} {fconn : FrameConn} {host : Host}
      (first : s.conn.queue.requests = head :: rest) (due : WriteDue now writable head)
      (call : s.conn.fconn.writeFrame env.heap s.host head.frame = some (result, fconn, host))
      (goesOn : result < 0 → Harmless host.errno) :
      AtRead env now writable s (s.wrote now head result fconn host)
  | gaveUp {head : Request} {rest : List Request} {t : State}
      (first : s.conn.queue.requests = head :: rest) (spent : Spent now head)
      (call : giveUp env now head s = some t) : AtRead env now writable s t
  | idle (neither : ∀ head rest, s.conn.queue.requests = head :: rest →
      ¬ WriteDue now writable head ∧ ¬ Spent now head) : AtRead env now writable s s

/-- The call gets as far as reading. -/
def GetsToRead (env : Env) (now : Timespec) (writable : Bool) (s : State) : Prop :=
  ∃ t, AtSend writable s t ∧ ∃ u, AtRead env now writable t u

/-- A data frame that the call reads, at the end of the stream at the latest, and the state it is
in then. -/
inductive ReadsData (env : Env) (now : Timespec) (readable writable : Bool) (s : State) :
    Frame → State → Prop
  | read {t u : State} {c : FrameConn} {h : Host} {n : Nat} {frame : Frame}
      (isReadable : readable = true) (send : AtSend writable s t)
      (atRead : AtRead env now writable t u)
      (call : u.conn.fconn.readFrame (u.host.endOfStream n) = some (some frame, c, h))
      (isData : frame.dataType = frameDataTypeDataMdr) :
      ReadsData env now readable writable s frame (u.afterRead c h)

section Parts

variable {env : Env} {now : Timespec} {writable : Bool} {s t : State}

theorem flushPart_of_flushWrite {flushed : Int} {fconn : FrameConn} {host : Host}
    (call : s.conn.fconn.flushWrite s.host = some (flushed, fconn, host)) :
    flushPart true s = some (reported flushed host, s.afterRead fconn host) := by
  simp only [flushPart, if_true, call, Option.bind_eq_bind, Option.bind_some]
  unfold reported
  split <;> rfl

/-- The send half begins when the flush is passed. -/
theorem atSend_iff : AtSend writable s t ↔ flushPart writable s = some (0, t) := by
  constructor
  · intro atSend
    cases atSend with
    | unflushed notWritable =>
      rw [notWritable]
      rfl
    | flushed isWritable call goesOn =>
      rw [isWritable, flushPart_of_flushWrite call, reported_goesOn goesOn]
  · intro run
    obtain ⟨notWritable, -, rfl⟩ | ⟨flushed, fconn, host, isWritable, call, rfl, zero⟩ :=
      flushPart_cases run
    · exact .unflushed notWritable
    · refine .flushed isWritable call ?_
      rcases reported_cases flushed host with ⟨failed, -⟩ | ⟨-, goesOn⟩
      · rw [failed] at zero
        cases zero
      · exact goesOn

/-- The flush returns when there is nothing to flush, or when a `write` fails. -/
theorem flushPart_isSome_iff : (flushPart writable s).isSome ↔
    (writable = true → s.conn.fconn.writeBuf ≠ [] → Host.fails s.host.writes = true) := by
  cases writable with
  | false => exact iff_of_true rfl fun isWritable => by cases isWritable
  | true =>
    rw [← FrameConn.flushWrite_isSome_iff (c := s.conn.fconn) (h := s.host)]
    cases flush : s.conn.fconn.flushWrite s.host with
    | none => simp [flushPart, flush]
    | some out =>
      obtain ⟨flushed, fconn, host⟩ := out
      simp [flushPart_of_flushWrite flush]

/-- A first request that is due is written. -/
theorem sendPart_of_due {head : Request} {rest : List Request}
    (first : s.conn.queue.requests = head :: rest) (due : WriteDue now writable head) :
    sendPart env now writable s = transmit env now head s := by
  unfold WriteDue at due
  unfold sendPart
  rw [first]
  dsimp only
  split <;> rename_i attempts
  · rw [if_pos attempts] at due
    rw [if_pos due]
  · rw [if_neg attempts] at due
    rw [if_pos due.1, if_neg due.2]

/-- A request that was sent often enough is given up. -/
theorem sendPart_of_spent {head : Request} {rest : List Request}
    (first : s.conn.queue.requests = head :: rest) (spent : Spent now head) :
    sendPart env now writable s = (giveUp env now head s).map fun t => (0, t) := by
  obtain ⟨sent, late, last⟩ := spent
  unfold sendPart
  rw [first]
  dsimp only
  rw [if_neg sent, if_pos late, if_pos last]
  cases giveUp env now head s <;> rfl

theorem sendPart_of_idle (neither : ∀ head rest, s.conn.queue.requests = head :: rest →
    ¬ WriteDue now writable head ∧ ¬ Spent now head) :
    sendPart env now writable s = some (0, s) := by
  unfold sendPart
  split
  · rfl
  rename_i head rest first
  obtain ⟨notDue, notSpent⟩ := neither head rest first
  unfold WriteDue at notDue
  split <;> rename_i attempts
  · rw [if_pos attempts] at notDue
    exact if_neg notDue
  rw [if_neg attempts] at notDue
  split
  · rename_i late
    by_cases last : head.acked ∨ packetMaxTries ≤ head.attempts
    · exact absurd ⟨attempts, late, last⟩ notSpent
    · exact absurd ⟨late, last⟩ notDue
  · rfl

/-- The first request is written, given up, or left as it is. -/
theorem sendPart_split (now : Timespec) (writable : Bool) (s : State) :
    (∃ head rest, s.conn.queue.requests = head :: rest ∧ WriteDue now writable head) ∨
      (∃ head rest, s.conn.queue.requests = head :: rest ∧ Spent now head) ∨
      ∀ head rest, s.conn.queue.requests = head :: rest →
        ¬ WriteDue now writable head ∧ ¬ Spent now head := by
  by_cases due : ∃ head rest, s.conn.queue.requests = head :: rest ∧ WriteDue now writable head
  · exact .inl due
  by_cases spent : ∃ head rest, s.conn.queue.requests = head :: rest ∧ Spent now head
  · exact .inr (.inl spent)
  · exact .inr (.inr fun head rest first =>
      ⟨fun isDue => due ⟨head, rest, first, isDue⟩, fun is => spent ⟨head, rest, first, is⟩⟩)

theorem State.wrote_host (s : State) (now : Timespec) (head : Request) (result : Int)
    (fconn : FrameConn) (host : Host) : (s.wrote now head result fconn host).host = host := by
  unfold State.wrote
  split <;> rfl

/-- What becomes of the write of the first request, and what it leaves. -/
theorem transmit_of_writeFrame (now : Timespec) {head : Request} {written : Int}
    {fconn : FrameConn} {host : Host}
    (call : s.conn.fconn.writeFrame env.heap s.host head.frame = some (written, fconn, host)) :
    transmit env now head s =
      some (reported written host, s.wrote now head written fconn host) := by
  simp only [transmit, call, Option.bind_eq_bind, Option.bind_some]
  unfold reported State.wrote
  split
  · rename_i failed
    split <;> rename_i blocks
    · rw [if_pos ⟨failed, blocks⟩]
      rfl
    · rw [if_neg fun both => blocks both.2]
      rfl
  · rename_i done
    rw [if_neg fun both => done both.1]
    rfl

theorem WriteDue.notSpent {head : Request} (due : WriteDue now writable head) :
    ¬ Spent now head := by
  rintro ⟨sent, late, last⟩
  unfold WriteDue at due
  rw [if_neg sent] at due
  exact due.2 last

/-- The read is next when the send half is passed. -/
theorem atRead_iff : AtRead env now writable s t ↔ sendPart env now writable s = some (0, t) := by
  constructor
  · intro atRead
    cases atRead with
    | written first due call goesOn =>
      rw [sendPart_of_due first due, transmit_of_writeFrame now call, reported_goesOn goesOn]
    | gaveUp first spent call =>
      rw [sendPart_of_spent first spent, call]
      rfl
    | idle neither => exact sendPart_of_idle neither
  · intro run
    obtain ⟨head, rest, first, due⟩ | ⟨head, rest, first, spent⟩ | neither :=
      sendPart_split now writable s
    · rw [sendPart_of_due first due] at run
      obtain ⟨written, fconn, host, call, zero, rfl⟩ := transmit_cases run
      refine .written first due call ?_
      rcases reported_cases written host with ⟨failed, -⟩ | ⟨-, goesOn⟩
      · rw [failed] at zero
        cases zero
      · exact goesOn
    · rw [sendPart_of_spent first spent] at run
      obtain ⟨u, call, same⟩ := Option.map_eq_some_iff.mp run
      cases same
      exact .gaveUp first spent call
    · rw [sendPart_of_idle neither] at run
      cases run
      exact .idle neither

theorem flushPart_result {result : Int} (run : flushPart writable s = some (result, t)) :
    result = 0 ∨ result = -1 := by
  obtain ⟨-, rfl, -⟩ | ⟨flushed, fconn, host, -, -, -, rfl⟩ := flushPart_cases run
  · exact .inl rfl
  · exact (reported_cases flushed host).symm.imp And.left And.left

theorem sendPart_result {result : Int} (run : sendPart env now writable s = some (result, t)) :
    result = 0 ∨ result = -1 := by
  obtain ⟨head, rest, -, -, call⟩ | ⟨-, rfl, -⟩ := sendPart_cases run
  · obtain ⟨written, fconn, host, -, rfl, -⟩ := transmit_cases call
    exact (reported_cases written host).symm.imp And.left And.left
  · exact .inl rfl

/-- A call that does not read returns 0 where one that reads gets as far as that. -/
theorem process_false_iff : process env now false writable s = some (0, t) ↔
    ∃ u, AtSend writable s u ∧ AtRead env now writable u t := by
  simp only [process, Option.bind_eq_bind, Option.bind_eq_some_iff, Bool.false_eq_true, if_false,
    atSend_iff, atRead_iff]
  constructor
  · rintro ⟨⟨flushed, u⟩, flush, run⟩
    obtain rfl | rfl := flushPart_result flush
    · simp only [Int.lt_irrefl, if_false, Option.bind_eq_some_iff] at run
      obtain ⟨⟨sent, v⟩, send, run⟩ := run
      obtain rfl | rfl := sendPart_result send <;> cases run
      exact ⟨u, flush, send⟩
    · cases run
  · rintro ⟨u, flush, send⟩
    exact ⟨(0, u), flush, by simp [send]⟩

theorem getsToRead_iff :
    GetsToRead env now writable s ↔ ∃ t, process env now false writable s = some (0, t) := by
  constructor
  · rintro ⟨u, atSend, t, atRead⟩
    exact ⟨t, process_false_iff.mpr ⟨u, atSend, atRead⟩⟩
  · rintro ⟨t, run⟩
    obtain ⟨u, atSend, atRead⟩ := process_false_iff.mp run
    exact ⟨u, atSend, t, atRead⟩

/-- The data frame is read where a call that does not read would return 0. -/
theorem readsData_iff {readable : Bool} {frame : Frame} :
    ReadsData env now readable writable s frame t ↔
      readable = true ∧ frame.dataType = frameDataTypeDataMdr ∧
        ∃ u c h n, process env now false writable s = some (0, u) ∧
          u.conn.fconn.readFrame (u.host.endOfStream n) = some (some frame, c, h) ∧
          t = u.afterRead c h := by
  constructor
  · rintro ⟨isReadable, atSend, atRead, call, isData⟩
    exact ⟨isReadable, isData, _, _, _, _, process_false_iff.mpr ⟨_, atSend, atRead⟩, call, rfl⟩
  · rintro ⟨isReadable, isData, u, c, h, n, run, call, rfl⟩
    obtain ⟨v, atSend, atRead⟩ := process_false_iff.mp run
    exact .read isReadable atSend atRead call isData

end Parts

/-! ## What ends a call -/

/-- As many rounds of the loops that user code can prolong are followed. -/
def Env.withLimit (env : Env) (limit : Nat) : Env := { env with limit }

/-- The loop over the subscriptions comes to an end. Each one that it comes to is in the list, and
still is when its callback has returned. -/
inductive LoopEnds (env : Env) (packet : Packet) : Option Handle → State → Prop
  | done (s : State) : LoopEnds env packet none s
  | turn {handle : Handle} {node : Subscription} {next : Option Handle} {s t : State}
      (found : (s.conn.subscriptions.find? fun node => node.handle = handle) = some node)
      (told : notify env packet node s = some t)
      (still : nextSubscription handle t.conn.subscriptions = some next)
      (ends : LoopEnds env packet next t) : LoopEnds env packet (some handle) s

/-- The state in which the packet of a data frame is acted on. -/
def State.acting (s : State) (now : Timespec) (frame : Frame) (result : Int) (fconn : FrameConn)
    (host : Host) : State :=
  ((s.record [.received frame s.conn.queue.requests.head? now]).afterRead fconn host).record
    [.wroteAck (ackFrame frame) result]

/-- When the packet of a data frame goes to the subscriptions the loop over them comes to an end. -/
def PacketEnds (env : Env) (now : Timespec) (frame : Frame) (s : State) : Prop :=
  ∀ result fconn host packet host',
    s.conn.fconn.writeFrame env.heap s.host (ackFrame frame) = some (result, fconn, host) →
    Packet.fromFrame env.heap frame host = some (some packet, host') →
    s.Consumes packet = false →
    LoopEnds env packet (s.conn.subscriptions.head?.map Subscription.handle)
      ((s.acting now frame result fconn host').record
        [.parsed packet s.conn.queue.requests.head?])

/-- The calls of `write` come to an end: those of the flush, of the write of the first request
and of the write of the ACK. -/
structure WritesEnd (env : Env) (now : Timespec) (readable writable : Bool) (s : State) :
    Prop where
  flush : writable = true → s.conn.fconn.writeBuf ≠ [] → Host.fails s.host.writes = true
  send : ∀ t, AtSend writable s t → ∀ head rest, t.conn.queue.requests = head :: rest →
    WriteDue now writable head → t.conn.fconn.WriteEnds env.heap t.host head.frame
  ack : ∀ frame t, ReadsData env now readable writable s frame t →
    t.conn.fconn.WriteEnds env.heap t.host (ackFrame frame)

/-- To make a packet of a data frame that is read takes nothing from outside the frame. -/
def StaysInside (env : Env) (now : Timespec) (readable writable : Bool) (s : State) : Prop :=
  ∀ frame t, ReadsData env now readable writable s frame t → ∀ result fconn host,
    t.conn.fconn.writeFrame env.heap t.host (ackFrame frame) = some (result, fconn, host) →
    (Packet.fromFrame env.heap frame host).isSome

/-- The loop over the subscriptions, in which user code is called, comes to an end. -/
def PassesOn (env : Env) (now : Timespec) (readable writable : Bool) (s : State) : Prop :=
  ∀ frame t, ReadsData env now readable writable s frame t → PacketEnds env now frame t

section Ends

variable {env : Env} {now : Timespec} {readable writable : Bool} {s t : State}

theorem callError_returns (returns : env.CallbacksReturn) (request : Request) (e : Errno)
    (s : State) : (callError env request e s).isSome := by
  unfold callError
  split
  · rfl
  · exact returns _ _

/-- A request is given up with one callback. -/
theorem giveUp_returns (returns : env.CallbacksReturn) (head : Request) (s : State) :
    (giveUp env now head s).isSome := by
  simp only [giveUp, Option.bind_eq_bind, Option.isSome_bind, Option.pure_def, Option.isSome_some,
    Option.any_true]
  exact callError_returns returns head _ _

theorem receiveAck_returns (returns : env.CallbacksReturn) (frame : Frame) (s : State) :
    (receiveAck env now frame s).isSome := by
  unfold receiveAck
  split
  · rfl
  split
  · split
    · unfold callResult
      split
      · rfl
      · exact returns _ _
    · rfl
  · rfl

/-- To send the first request is to write its frame. -/
theorem transmit_isSome_iff {head : Request} : (transmit env now head s).isSome ↔
    s.conn.fconn.WriteEnds env.heap s.host head.frame := by
  rw [← FrameConn.writeFrame_isSome_iff]
  cases wrote : s.conn.fconn.writeFrame env.heap s.host head.frame with
  | none => simp [transmit, wrote]
  | some out =>
    obtain ⟨written, fconn, host⟩ := out
    simp [transmit_of_writeFrame now wrote]

/-- The send half returns when the write of a request that is due comes to an end. -/
theorem sendPart_isSome_iff (returns : env.CallbacksReturn) :
    (sendPart env now writable s).isSome ↔ ∀ head rest, s.conn.queue.requests = head :: rest →
      WriteDue now writable head → s.conn.fconn.WriteEnds env.heap s.host head.frame := by
  obtain ⟨head, rest, first, due⟩ | ⟨head, rest, first, spent⟩ | neither :=
    sendPart_split now writable s
  · rw [sendPart_of_due first due, transmit_isSome_iff]
    constructor
    · intro ends head' rest' first' _
      rw [first] at first'
      cases first'
      exact ends
    · exact fun ends => ends head rest first due
  · rw [sendPart_of_spent first spent, Option.isSome_map]
    refine iff_of_true (giveUp_returns returns head s) fun head' rest' first' due => ?_
    rw [first] at first'
    cases first'
    exact absurd spent due.notSpent
  · rw [sendPart_of_idle neither]
    exact iff_of_true rfl fun head rest first due => absurd due (neither head rest first).1

/-- A call that does not read returns when its calls of `write` come to an end. -/
theorem process_false_isSome_iff (returns : env.CallbacksReturn) :
    (process env now false writable s).isSome ↔
      (writable = true → s.conn.fconn.writeBuf ≠ [] → Host.fails s.host.writes = true) ∧
        ∀ t, AtSend writable s t → ∀ head rest, t.conn.queue.requests = head :: rest →
          WriteDue now writable head → t.conn.fconn.WriteEnds env.heap t.host head.frame := by
  rw [← flushPart_isSome_iff]
  cases flush : flushPart writable s with
  | none => simp [process, flush]
  | some out =>
    obtain ⟨flushed, u⟩ := out
    obtain rfl | rfl := flushPart_result flush
    · have only (t : State) (atSend : AtSend writable s t) : t = u := by
        rw [atSend_iff, flush] at atSend
        cases atSend
        rfl
      have same : (process env now false writable s).isSome =
          (sendPart env now writable u).isSome := by
        simp only [process, flush, Option.bind_eq_bind, Option.bind_some, Int.lt_irrefl, if_false,
          Bool.false_eq_true]
        cases sendPart env now writable u with
        | none => rfl
        | some out =>
          rw [Option.bind_some]
          split <;> rfl
      rw [same, sendPart_isSome_iff returns]
      constructor
      · intro ends
        refine ⟨rfl, fun t atSend => ?_⟩
        rw [only t atSend]
        exact ends
      · exact fun both => both.2 u (atSend_iff.mpr flush)
    · have notSend (t : State) (atSend : AtSend writable s t) : False := by
        rw [atSend_iff, flush] at atSend
        cases atSend
      simp only [process, flush, Option.bind_eq_bind, Option.bind_some]
      exact iff_of_true rfl ⟨rfl, fun t atSend => (notSend t atSend).elim⟩

/-- The loop over the subscriptions comes to an end after some number of rounds. -/
theorem loopEnds_iff {packet : Packet} {handle : Option Handle} :
    LoopEnds env packet handle s ↔ ∃ rounds, (dispatch env packet rounds handle s).isSome := by
  constructor
  · intro ends
    induction ends with
    | done s => exact ⟨0, rfl⟩
    | turn found told still _ ih =>
      obtain ⟨rounds, ended⟩ := ih
      refine ⟨rounds + 1, ?_⟩
      simpa only [dispatch, found, told, still, Option.bind_eq_bind, Option.bind_some] using ended
  · rintro ⟨rounds, ended⟩
    induction rounds generalizing handle s with
    | zero =>
      cases handle with
      | none => exact .done s
      | some handle => cases ended
    | succ rounds ih =>
      cases handle with
      | none => exact .done s
      | some handle =>
        obtain ⟨u, run⟩ := Option.isSome_iff_exists.mp ended
        simp only [dispatch, Option.bind_eq_bind, Option.bind_eq_some_iff] at run
        obtain ⟨node, found, t, told, next, still, run⟩ := run
        exact .turn found told still (ih (Option.isSome_of_eq_some run))

theorem dispatch_withLimit (limit : Nat) (packet : Packet) (rounds : Nat) (handle : Option Handle)
    (s : State) : dispatch (env.withLimit limit) packet rounds handle s =
      dispatch env packet rounds handle s := by
  induction rounds generalizing handle s with
  | zero => cases handle <;> rfl
  | succ rounds ih =>
    cases handle with
    | none => rfl
    | some handle =>
      simp only [dispatch, ih]
      rfl

/-- A packet that does not answer the first request goes to the subscriptions. -/
theorem receivePacket_of_not_consumed {packet : Packet} (notFirst : s.Consumes packet = false) :
    receivePacket env packet s =
      dispatch env packet env.limit (s.conn.subscriptions.head?.map Subscription.handle)
        (s.record [.parsed packet s.conn.queue.requests.head?]) := by
  unfold State.Consumes at notFirst
  unfold receivePacket
  dsimp only [State.record_conn]
  split
  · rfl
  · rename_i head rest first
    rw [first, List.head?_cons, Option.any_some] at notFirst
    rw [if_neg (by rw [notFirst]; exact Bool.false_ne_true)]

theorem receivePacket_of_consumed (returns : env.CallbacksReturn) {packet : Packet}
    (consumed : s.Consumes packet = true) : (receivePacket env packet s).isSome := by
  unfold State.Consumes at consumed
  unfold receivePacket
  dsimp only [State.record_conn]
  split
  · rename_i empty
    rw [empty] at consumed
    cases consumed
  · rename_i head rest first
    rw [first, List.head?_cons, Option.any_some] at consumed
    rw [if_pos consumed]
    unfold callResult
    split
    · rfl
    · exact returns _ _

/-- A packet is acted on when the loop over the subscriptions comes to an end, if it goes there. -/
theorem receivePacket_ends_iff (returns : env.CallbacksReturn) {packet : Packet} :
    (∃ limit, (receivePacket (env.withLimit limit) packet s).isSome) ↔
      (s.Consumes packet = false →
        LoopEnds env packet (s.conn.subscriptions.head?.map Subscription.handle)
          (s.record [.parsed packet s.conn.queue.requests.head?])) := by
  cases consumed : s.Consumes packet with
  | true =>
    have returns' : (env.withLimit 0).CallbacksReturn := returns
    refine iff_of_true ⟨0, receivePacket_of_consumed returns' consumed⟩ ?_
    exact fun notFirst => by cases notFirst
  | false =>
    rw [imp_iff_right rfl, loopEnds_iff]
    refine exists_congr fun limit => ?_
    rw [receivePacket_of_not_consumed consumed, dispatch_withLimit]
    rfl

/-- What the call does behind the read of a data frame comes to an end. -/
structure FrameEnds (env : Env) (now : Timespec) (frame : Frame) (s : State) : Prop where
  ack : s.conn.fconn.WriteEnds env.heap s.host (ackFrame frame)
  inside : ∀ result fconn host,
    s.conn.fconn.writeFrame env.heap s.host (ackFrame frame) = some (result, fconn, host) →
    (Packet.fromFrame env.heap frame host).isSome
  packet : PacketEnds env now frame s

theorem receiveData_of_fromFrame {frame : Frame} {result : Int} {fconn : FrameConn}
    {host host' : Host} {packet : Packet}
    (wrote : s.conn.fconn.writeFrame env.heap s.host (ackFrame frame) = some (result, fconn, host))
    (made : Packet.fromFrame env.heap frame host = some (some packet, host')) :
    (receiveData env frame (s.record [.received frame s.conn.queue.requests.head? now])).isSome =
      (receivePacket env packet (s.acting now frame result fconn host')).isSome := by
  simp only [receiveData, State.record_conn, State.record_host, wrote, made, Option.bind_eq_bind,
    Option.bind_some, Option.isSome_bind, Option.pure_def, Option.isSome_some, Option.any_true]
  rfl

section Written

variable {frame : Frame} {result : Int} {fconn : FrameConn} {host host' : Host} {packet : Packet}

theorem inside_iff (wrote : s.conn.fconn.writeFrame env.heap s.host (ackFrame frame) =
    some (result, fconn, host)) :
    (∀ result fconn host,
      s.conn.fconn.writeFrame env.heap s.host (ackFrame frame) = some (result, fconn, host) →
      (Packet.fromFrame env.heap frame host).isSome) ↔
        (Packet.fromFrame env.heap frame host).isSome := by
  constructor
  · exact fun all => all result fconn host wrote
  · intro isSome result' fconn' host' wrote'
    rw [wrote] at wrote'
    cases wrote'
    exact isSome

theorem packetEnds_of_unmade (wrote : s.conn.fconn.writeFrame env.heap s.host (ackFrame frame) =
    some (result, fconn, host)) (unmade : Packet.fromFrame env.heap frame host =
      some (none, host')) : PacketEnds env now frame s := by
  intro result' fconn' host₁ packet host₂ wrote' made
  rw [wrote] at wrote'
  cases wrote'
  rw [unmade] at made
  cases made

/-- The packet that is made of a data frame is the one whose loop has to come to an end. -/
theorem packetEnds_iff (wrote : s.conn.fconn.writeFrame env.heap s.host (ackFrame frame) =
    some (result, fconn, host)) (made : Packet.fromFrame env.heap frame host =
      some (some packet, host')) : PacketEnds env now frame s ↔ (s.Consumes packet = false →
        LoopEnds env packet (s.conn.subscriptions.head?.map Subscription.handle)
          ((s.acting now frame result fconn host').record
            [.parsed packet s.conn.queue.requests.head?])) := by
  constructor
  · exact fun ends => ends result fconn host packet host' wrote made
  · intro ends result' fconn' host₁ packet' host₂ wrote' made'
    rw [wrote] at wrote'
    cases wrote'
    rw [made] at made'
    cases made'
    exact ends

end Written

/-- A data frame is acted on when these come to an end: the write of its ACK, the making of its
packet, and the loop over the subscriptions. -/
theorem receiveData_ends_iff (returns : env.CallbacksReturn) {frame : Frame} :
    (∃ limit, (receiveData (env.withLimit limit) frame
      (s.record [.received frame s.conn.queue.requests.head? now])).isSome) ↔
      FrameEnds env now frame s := by
  have heap (limit : Nat) : (env.withLimit limit).heap = env.heap := rfl
  have written := @FrameConn.writeFrame_isSome_iff env.heap s.conn.fconn s.host (ackFrame frame)
  cases wrote : s.conn.fconn.writeFrame env.heap s.host (ackFrame frame) with
  | none =>
    rw [wrote] at written
    refine iff_of_false ?_ fun ends => by cases written.mpr ends.ack
    rintro ⟨limit, ended⟩
    simp only [receiveData, State.record_conn, State.record_host, heap, wrote] at ended
    cases ended
  | some out =>
    obtain ⟨result, fconn, host⟩ := out
    have ack := written.mp (Option.isSome_of_eq_some wrote)
    cases made : Packet.fromFrame env.heap frame host with
    | none =>
      refine iff_of_false ?_ fun ends => ?_
      · rintro ⟨limit, ended⟩
        simp only [receiveData, State.record_conn, State.record_host, heap, wrote,
          Option.bind_eq_bind, Option.bind_some, made] at ended
        cases ended
      · have isSome := ends.inside result fconn host wrote
        rw [made] at isSome
        cases isSome
    | some out =>
      have inside := (inside_iff wrote).mpr (Option.isSome_of_eq_some made)
      obtain ⟨packet | packet, host'⟩ := out
      · refine iff_of_true ⟨0, ?_⟩ ⟨ack, inside, packetEnds_of_unmade wrote made⟩
        simp only [receiveData, State.record_conn, State.record_host, heap, wrote,
          Option.bind_eq_bind, Option.bind_some, made]
        rfl
      · have acted (limit : Nat) : (receiveData (env.withLimit limit) frame
            (s.record [.received frame s.conn.queue.requests.head? now])).isSome =
            (receivePacket (env.withLimit limit) packet
              (s.acting now frame result fconn host')).isSome :=
          receiveData_of_fromFrame wrote made
        simp only [acted, receivePacket_ends_iff returns]
        refine Iff.trans ?_ ((packetEnds_iff wrote made).symm.trans
          ⟨fun ends => ⟨ack, inside, ends⟩, FrameEnds.packet⟩)
        exact Iff.rfl

/-- Behind the read, a data frame is all that takes more than a callback. -/
theorem receiveFrame_ends_iff (returns : env.CallbacksReturn) {frame : Frame} :
    (∃ limit, (receiveFrame (env.withLimit limit) now frame s).isSome) ↔
      (frame.dataType = frameDataTypeDataMdr → FrameEnds env now frame s) := by
  unfold receiveFrame
  dsimp only
  by_cases isAck : frame.dataType = frameDataTypeAck
  · have notData : frame.dataType ≠ frameDataTypeDataMdr := by
      rw [isAck]
      decide
    refine iff_of_true ⟨0, ?_⟩ fun isData => absurd isData notData
    simp only [if_pos isAck, Option.bind_eq_bind, Option.isSome_bind, Option.pure_def,
      Option.isSome_some, Option.any_true]
    have returns' : (env.withLimit 0).CallbacksReturn := returns
    exact receiveAck_returns returns' frame _
  by_cases isData : frame.dataType = frameDataTypeDataMdr
  · simp only [if_neg isAck, if_pos isData, imp_iff_right isData]
    exact receiveData_ends_iff returns
  · refine iff_of_true ⟨0, ?_⟩ fun is => absurd is isData
    rw [if_neg isAck, if_neg isData]
    rfl

/-- What is read is acted on when the calls behind the read come to an end. -/
theorem receivePart_ends_iff (returns : env.CallbacksReturn) :
    (∃ limit, (receivePart (env.withLimit limit) now s).isSome) ↔
      (s.conn.fconn.readFrame s.host).isSome ∧
      ∀ frame c h, s.conn.fconn.readFrame s.host = some (some frame, c, h) →
        frame.dataType = frameDataTypeDataMdr → FrameEnds env now frame (s.afterRead c h) := by
  unfold receivePart
  cases read : s.conn.fconn.readFrame s.host with
  | none => simp
  | some out =>
    obtain ⟨_ | frame, c, h⟩ := out
    · simp
    have only : (∀ frame' c' h', some (some frame, c, h) = some (some frame', c', h') →
        frame'.dataType = frameDataTypeDataMdr → FrameEnds env now frame' (s.afterRead c' h')) ↔
          (frame.dataType = frameDataTypeDataMdr → FrameEnds env now frame (s.afterRead c h)) := by
      constructor
      · exact fun all => all _ _ _ rfl
      · rintro ends _ _ _ ⟨⟩
        exact ends
    simp only [only, Option.isSome_some, true_and]
    exact receiveFrame_ends_iff returns

/-- A call returns when what comes before the read does, and what comes then. -/
theorem process_ends_iff :
    (∃ limit, (process (env.withLimit limit) now readable writable s).isSome) ↔
      (process env now false writable s).isSome ∧ (readable = true → ∀ t,
        process env now false writable s = some (0, t) →
        ∃ limit, (receivePart (env.withLimit limit) now t).isSome) := by
  have before (limit : Nat) :
      process (env.withLimit limit) now false writable s = process env now false writable s := rfl
  cases readable with
  | false => simp [before]
  | true =>
    simp only [process_true, before]
    cases run : process env now false writable s with
    | none => simp
    | some out =>
      obtain ⟨result, t⟩ := out
      rcases (process_false_reading run).1 with rfl | rfl <;> simp

/-- What `write` does not see, and what is read later, does not end a call. -/
theorem frameEnds_unread (returns : env.CallbacksReturn) {g : Host → Host} (unread : Host.Unread g)
    {frame : Frame} : FrameEnds env now frame (s.mapHost g) ↔ FrameEnds env now frame s := by
  have same (limit : Nat) := receiveData_unread unread (env.withLimit limit) frame
    (s.record [.received frame s.conn.queue.requests.head? now])
  rw [← receiveData_ends_iff returns, ← receiveData_ends_iff returns]
  refine exists_congr fun limit => ?_
  have isSome := congrArg Option.isSome (same limit)
  rw [Option.isSome_map] at isSome
  exact iff_of_eq (congrArg (· = true) isSome)

/-- Callbacks that return and leave the list alone let the loop over it come to an end. -/
theorem passesOn_of_keepsList (keeps : env.KeepsList) (returns : env.CallbacksReturn)
    (ordered : s.Ordered) : PassesOn env now readable writable s := by
  intro frame u found result fconn host packet host' _ _ _
  obtain ⟨-, -, t, c, h, n, run, -, rfl⟩ := readsData_iff.mp found
  have orderedThen : (((t.afterRead c h).acting now frame result fconn host').record
      [.parsed packet t.conn.queue.requests.head?]).Ordered :=
    (ordered_invariant.process run ordered).of_same rfl rfl
  exact loopEnds_iff.mpr ⟨t.conn.subscriptions.length,
    dispatch_returns keeps returns orderedThen (List.nil_append _).symm (Nat.le_refl _)⟩

end Ends

/-! ## The end of the stream -/

/-- At the end of the stream the call returns. -/
def ProcessEnds (env : Env) (now : Timespec) (readable writable : Bool) (s : State) : Prop :=
  ∃ n limit,
    (process (env.withLimit limit) now readable writable (s.mapHost (Host.endOfStream n))).isSome

/-- When the call gets as far as reading, a frame becomes complete or a `read` fails. -/
def ReadDelivers (env : Env) (now : Timespec) (readable writable : Bool) (s : State) : Prop :=
  readable = true → GetsToRead env now writable s → s.conn.fconn.Delivers s.host.reads

section EndOfStream

variable {env : Env} {now : Timespec} {readable writable : Bool} {s : State}

/-- However many reads follow at the end of the stream, a frame that is found is the same. -/
theorem readFrame_agree {c c₁ c₂ : FrameConn} {h h₁ h₂ : Host} {n₁ n₂ : Nat}
    {frame₁ frame₂ : Option Frame}
    (one : c.readFrame (h.endOfStream n₁) = some (frame₁, c₁, h₁))
    (two : c.readFrame (h.endOfStream n₂) = some (frame₂, c₂, h₂)) :
    frame₁ = frame₂ ∧ c₁ = c₂ ∧ h₁.endOfStream n₂ = h₂.endOfStream n₁ := by
  have later := FrameConn.readFrame_endOfStream n₂ one
  have later' := FrameConn.readFrame_endOfStream n₁ two
  have same : (h.endOfStream n₁).endOfStream n₂ = (h.endOfStream n₂).endOfStream n₁ := by
    simp only [Host.endOfStream, List.append_assoc, List.replicate_append_replicate, Nat.add_comm]
  rw [same, later'] at later
  obtain ⟨sameFrame, rest⟩ := Prod.mk.inj (Option.some.inj later)
  obtain ⟨sameConn, sameHost⟩ := Prod.mk.inj rest
  exact ⟨sameFrame.symm, sameConn.symm, sameHost.symm⟩

/-- A call that does not read is not concerned with the end of the stream. -/
theorem process_endOfStream_ends_iff (n : Nat) :
    (∃ limit, (process (env.withLimit limit) now readable writable
        (s.mapHost (Host.endOfStream n))).isSome) ↔
      (process env now false writable s).isSome ∧ (readable = true → ∀ t,
        process env now false writable s = some (0, t) → ∃ limit,
          (receivePart (env.withLimit limit) now (t.mapHost (Host.endOfStream n))).isSome) := by
  rw [process_ends_iff, process_false_unread env now writable s (Host.unread_endOfStream n),
    Option.isSome_map]
  refine and_congr_right fun _ => imp_congr_right fun _ => ?_
  constructor
  · intro received t run
    exact received _ (by rw [run]; rfl)
  · intro received t run
    obtain ⟨⟨result, u⟩, before, same⟩ := Option.map_eq_some_iff.mp run
    cases same
    exact received u before

/-- At the end of the stream the call returns when its parts do. Frames and their ends do not
depend on how many reads follow. -/
theorem processEnds_iff (returns : env.CallbacksReturn) :
    ProcessEnds env now readable writable s ↔ WritesEnd env now readable writable s ∧
      StaysInside env now readable writable s ∧ PassesOn env now readable writable s ∧
        ReadDelivers env now readable writable s := by
  constructor
  · rintro ⟨n, ended⟩
    obtain ⟨first, second⟩ := (process_endOfStream_ends_iff n).mp ended
    obtain ⟨flush, send⟩ := (process_false_isSome_iff returns).mp first
    have behind {t : State} (isReadable : readable = true)
        (run : process env now false writable s = some (0, t)) :=
      (receivePart_ends_iff returns).mp (second isReadable t run)
    have ends (frame : Frame) (u : State) (reads : ReadsData env now readable writable s frame u) :
        FrameEnds env now frame u := by
      obtain ⟨isReadable, isData, t, c, h, m, run, call, rfl⟩ := readsData_iff.mp reads
      obtain ⟨returned, acted⟩ := behind isReadable run
      obtain ⟨⟨frame', c', h'⟩, call'⟩ := Option.isSome_iff_exists.mp returned
      obtain ⟨rfl, rfl, same⟩ := readFrame_agree call call'
      have here : (t.afterRead c h).mapHost (Host.endOfStream n) =
          (t.afterRead c h').mapHost (Host.endOfStream m) :=
        congrArg (fun host => t.afterRead c host) same
      rw [← frameEnds_unread returns (Host.unread_endOfStream n), here,
        frameEnds_unread returns (Host.unread_endOfStream m)]
      exact acted frame c h' call' isData
    refine ⟨⟨flush, send, fun frame u reads => (ends frame u reads).ack⟩,
      fun frame u reads => (ends frame u reads).inside,
      fun frame u reads => (ends frame u reads).packet, fun isReadable gets => ?_⟩
    obtain ⟨t, run⟩ := getsToRead_iff.mp gets
    obtain ⟨⟨frame, c, h⟩, call⟩ := Option.isSome_iff_exists.mp (behind isReadable run).1
    exact (delivers_at_read run).mpr (FrameConn.delivers_of_readFrame rfl call)
  · rintro ⟨writes, inside, passes, delivers⟩
    have first := (process_false_isSome_iff returns).mpr ⟨writes.flush, writes.send⟩
    by_cases gets : readable = true ∧ GetsToRead env now writable s
    · obtain ⟨isReadable, gets⟩ := gets
      obtain ⟨t, run⟩ := getsToRead_iff.mp gets
      obtain ⟨n, read⟩ :=
        FrameConn.readFrame_of_delivers ((delivers_at_read run).mp (delivers isReadable gets))
      refine ⟨n, (process_endOfStream_ends_iff n).mpr ⟨first, fun _ u run' => ?_⟩⟩
      obtain rfl : t = u := (Prod.mk.inj (Option.some.inj (run.symm.trans run'))).2
      obtain ⟨frame, c, h, call, -⟩ := read (t.host.endOfStream n) rfl
      refine (receivePart_ends_iff returns).mpr ⟨Option.isSome_of_eq_some call, ?_⟩
      intro frame c h call isData
      have reads := readsData_iff.mpr ⟨isReadable, isData, t, c, h, n, run, call, rfl⟩
      exact ⟨writes.ack frame _ reads, inside frame _ reads, passes frame _ reads⟩
    · refine ⟨0, (process_endOfStream_ends_iff 0).mpr ⟨first, fun isReadable t run => ?_⟩⟩
      exact absurd ⟨isReadable, getsToRead_iff.mpr ⟨t, run⟩⟩ gets

end EndOfStream

/-- **Reading ends at the end of the stream only with something to return.** Every `read` that
gives 0 is followed by another one, unless the scanner finds a frame in what is there. A whole
call returns when its calls of `write` come to an end besides, that of the flush among them,
which fails or has nothing to do, when what is read is a frame that holds what it announces, and
when callbacks let the loop over the subscriptions come to an end. -/
theorem reading_ends_iff {env : Env} {s : State}
    (errors : ∀ e, ReadOutcome.err e ∈ s.host.reads → e ≠ 0) (returns : env.CallbacksReturn)
    (now : Timespec) (readable writable : Bool) :
    (s.conn.fconn.ReadEnds s.host ↔ s.conn.fconn.Delivers s.host.reads) ∧
      (ProcessEnds env now readable writable s ↔ WritesEnd env now readable writable s ∧
        StaysInside env now readable writable s ∧ PassesOn env now readable writable s ∧
        ReadDelivers env now readable writable s) :=
  ⟨FrameConn.readEnds_iff_delivers errors, processEnds_iff returns⟩

/-- A battery notice arrives, and the peer is gone; a byte is still to be written, and the socket
blocks before it takes the ACK. The callback for the notice subscribes to something else. -/
theorem reading_ends_iff_after_notice :
    let env : Env := { Env.idle with
      script := fun k => if k = 0 then
        [.subscribe { onlyAck := false, packetType := .commonNtfyConnectionStatus, extra := 1 }
          none 0] else [] }
    let c : FrameConn := { FrameConn.fresh with writeBuf := [0x3c] }
    let h : Host := .listing [.data [0x3e, 0x0c, 1, 0, 0, 0, 4, 0x13, 0, 10, 0, 0x2e, 0x3c]]
      [.err eagain, .err eagain, .wrote 4, .err eagain]
    let s := (subscribe env { onlyAck := false, packetType := .commonNtfyBatteryLevel, extra := 0 }
      (some 7) 0 (.start c h)).2
    (s.conn.fconn.ReadEnds s.host ↔ s.conn.fconn.Delivers s.host.reads) ∧
      (ProcessEnds env ⟨0, 0⟩ true true s ↔ WritesEnd env ⟨0, 0⟩ true true s ∧
        StaysInside env ⟨0, 0⟩ true true s ∧ PassesOn env ⟨0, 0⟩ true true s ∧
        ReadDelivers env ⟨0, 0⟩ true true s) := by
  intro env c h s
  have errors (e : Errno) (isIn : ReadOutcome.err e ∈ s.host.reads) : e ≠ 0 := by
    cases List.mem_singleton.mp isIn
  have returns : env.CallbacksReturn := by
    intro k t
    by_cases first : k = 0
    · rw [show env.script k = _ from if_pos first]
      rfl
    · rw [show env.script k = _ from if_neg first]
      rfl
  exact reading_ends_iff errors returns ⟨0, 0⟩ true true

end Libmdr
