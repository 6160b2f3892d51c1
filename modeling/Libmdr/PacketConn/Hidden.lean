import Libmdr.PacketConn.Model

/-!
# What a call does not look at

A function that only allocates does the same whatever the socket will do, and a function
that writes does the same whatever there is to read. Both are said with a change `g` of
the host that the function does not see: running after the change is the same as changing
what the run gives.
-/

namespace Libmdr
set_option autoImplicit false

namespace Host

/-- A change of the host that `malloc` does not see. -/
structure Hidden (g : Host → Host) : Prop where
  errno : ∀ h, (g h).errno = h.errno
  mallocs : ∀ h, (g h).mallocs = h.mallocs
  setErrno : ∀ h e, g { h with errno := e } = { g h with errno := e }
  setMallocs : ∀ h n, g { h with mallocs := n } = { g h with mallocs := n }

/-- A change of the host that `write` does not see either. -/
structure Unread (g : Host → Host) : Prop extends Hidden g where
  write : ∀ h bytes, (g h).write bytes = (h.write bytes).map (Prod.map id g)

/-- Other outcomes of the `write` calls to come. -/
def withWrites (writes : List WriteOutcome) (h : Host) : Host := { h with writes }

/-- `malloc` does not see what the socket will accept. -/
theorem hidden_withWrites (writes : List WriteOutcome) : Hidden (withWrites writes) :=
  ⟨fun _ => rfl, fun _ => rfl, fun _ _ => rfl, fun _ _ => rfl⟩

variable {g : Host → Host} (hidden : Hidden g)
include hidden

/-- The block, and whether there is one, depends on the number of earlier calls only. -/
theorem malloc_hidden (heap : Heap) (h : Host) :
    (g h).malloc heap = Prod.map id g (h.malloc heap) := by
  unfold Host.malloc
  rw [hidden.mallocs]
  split
  · have counted := hidden.setMallocs h (h.mallocs + 1)
    rw [Prod.map, hidden.setErrno { h with mallocs := h.mallocs + 1 } enomem, counted]
    rfl
  · rw [Prod.map, hidden.setMallocs h (h.mallocs + 1)]
    rfl

end Host

/-! ## Packets -/

section Packets

variable {g : Host → Host} (hidden : Host.Hidden g)
include hidden

theorem Layout.write_hidden (heap : Heap) (type : UInt8) (layout : Layout) (h : Host) :
    layout.write heap type (g h) = (layout.write heap type h).map (Prod.map id g) := by
  unfold Layout.write
  rw [Host.malloc_hidden hidden]
  obtain ⟨_ | junk, h'⟩ := h.malloc heap
  · rfl
  · dsimp only [Prod.map, id]
    split <;> rfl

theorem writeFrames_hidden (heap : Heap) (type : UInt8) (layouts : List Layout) (h : Host) :
    writeFrames heap type layouts (g h) =
      (writeFrames heap type layouts h).map (Prod.map id g) := by
  fun_induction writeFrames heap type layouts h with
  | case1 => rfl
  | case2 layout h => exact Layout.write_hidden hidden heap type layout h
  | case3 layout rest h notLast ih =>
    rw [writeFrames, Layout.write_hidden hidden]
    · rcases layout.write heap type h with _ | ⟨_ | frame, h'⟩
      · rfl
      · rfl
      · exact ih h'
    · exact notLast

/-- Encoding only allocates. -/
theorem Packet.toFrame_hidden (heap : Heap) (packet : Packet) (h : Host) :
    packet.toFrame heap (g h) = (packet.toFrame heap h).map (Prod.map id g) := by
  unfold Packet.toFrame
  cases packet.layouts with
  | none => rfl
  | some layouts => exact writeFrames_hidden hidden heap _ layouts h

theorem Cursor.onHost_hidden (cursor : Cursor) (h : Host) :
    cursor.onHost (g h) = g (cursor.onHost h) := by
  unfold Cursor.onHost
  rw [hidden.setMallocs { h with errno := cursor.errno } cursor.mallocs,
    hidden.setErrno h cursor.errno]

/-- Decoding counts its `malloc` calls in a cursor and passes them to the host at the end. -/
theorem Packet.fromFrame_hidden (heap : Heap) (frame : Frame) (h : Host) :
    Packet.fromFrame heap frame (g h) = (Packet.fromFrame heap frame h).map (Prod.map id g) := by
  have failed (e : Errno) : some (none, { g h with errno := e }) =
      (some (none, { h with errno := e })).map (Prod.map (id : Option Packet → _) g) := by
    rw [Option.map_some, Prod.map, hidden.setErrno h e]
    rfl
  have ended (cursor : Cursor) (packet : Option Packet) : some (packet, cursor.onHost (g h)) =
      (some (packet, cursor.onHost h)).map (Prod.map id g) := by
    rw [Cursor.onHost_hidden hidden]
    rfl
  have errno := hidden.errno h
  have mallocs := hidden.mallocs h
  unfold Packet.fromFrame
  split
  · exact failed _
  split
  · exact failed _
  cases frame.body[0]? with
  | none => rfl
  | some first =>
    dsimp only
    cases (ByteEnum.ofByte first : Option PacketType) with
    | none => exact failed _
    | some type =>
      dsimp only
      rw [errno, mallocs]
      split
      · exact ended _ _
      · rfl
      · exact ended _ _
      · exact ended _ _

end Packets

/-! ## The frame connection -/

namespace FrameConn

section Escaping

variable {g : Host → Host} (hidden : Host.Hidden g)
include hidden

theorem ensureEscapedBuffer_hidden (heap : Heap) (n : Nat) (buf : EscapeBuf) (h : Host) :
    ensureEscapedBuffer heap n buf (g h) = Prod.map id g (ensureEscapedBuffer heap n buf h) := by
  unfold ensureEscapedBuffer
  split
  · rw [Host.malloc_hidden hidden]
    rcases h.malloc heap with ⟨_ | junk, h'⟩ <;> rfl
  · rfl

/-- The buffer grows while it is filled, so each round may allocate. -/
theorem escapeLoop_hidden (heap : Heap) (bytes : List UInt8) (buf : EscapeBuf) (h : Host) :
    escapeLoop heap bytes buf (g h) = Prod.map id g (escapeLoop heap bytes buf h) := by
  induction bytes generalizing buf h with
  | nil => rfl
  | cons b rest ih =>
    rw [escapeLoop, escapeLoop, ensureEscapedBuffer_hidden hidden]
    rcases ensureEscapedBuffer heap (escapeByte b).length buf h with ⟨_ | grown, h'⟩
    · rfl
    · exact ih _ h'

/-- Escaping only allocates. -/
theorem escapeFrame_hidden (heap : Heap) (frame : Frame) (h : Host) :
    escapeFrame heap frame (g h) = Prod.map id g (escapeFrame heap frame h) := by
  unfold escapeFrame
  rw [Host.malloc_hidden hidden]
  rcases h.malloc heap with ⟨_ | junk, h₁⟩
  · rfl
  dsimp only [Prod.map, id]
  rw [escapeLoop_hidden hidden]
  rcases escapeLoop heap (frame.bytes.take frame.frameLen) _ h₁ with ⟨_ | buf, h₂⟩
  · rfl
  dsimp only [Prod.map, id]
  rw [ensureEscapedBuffer_hidden hidden]
  rcases ensureEscapedBuffer heap 1 buf h₂ with ⟨_ | grown, h₃⟩
  · rfl
  dsimp only [Prod.map, id]
  rw [Host.malloc_hidden hidden]
  rcases h₃.malloc heap with ⟨_ | junk, h₄⟩ <;> rfl

end Escaping

section Writing

variable {g : Host → Host} (unread : Host.Unread g)
include unread

/-- Flushing calls `write`. The induction is on the outcomes that are left. -/
theorem flushWriteLoop_unread (i : Nat) (c : FrameConn) (h : Host) :
    flushWriteLoop i c (g h) = (flushWriteLoop i c h).map (Prod.map id (Prod.map id g)) := by
  fun_induction flushWriteLoop i c h with
  | case1 h more ended =>
    rw [flushWriteLoop_eq, if_pos more, unread.write, ended]
    rfl
  | case2 h more n h₁ wrote ih =>
    rw [flushWriteLoop_eq, if_pos more, unread.write, wrote]
    exact ih
  | case3 h more h₁ interrupted ih =>
    rw [flushWriteLoop_eq, if_pos more, unread.write, interrupted]
    exact (if_pos rfl).trans ih
  | case4 h more e h₁ failed other advanced moved =>
    rw [flushWriteLoop_eq, if_pos more, unread.write, failed]
    exact (if_neg other).trans (if_pos advanced)
  | case5 h more e h₁ failed other unmoved =>
    rw [flushWriteLoop_eq, if_pos more, unread.write, failed]
    exact (if_neg other).trans (if_neg unmoved)
  | case6 h done =>
    rw [flushWriteLoop_eq, if_neg done]
    rfl

theorem flushWrite_unread (c : FrameConn) (h : Host) :
    c.flushWrite (g h) = (c.flushWrite h).map (Prod.map id (Prod.map id g)) :=
  flushWriteLoop_unread unread 0 c h

theorem writeFrameLoop_unread (escaped : List UInt8) (written : Nat) (c : FrameConn) (h : Host) :
    writeFrameLoop escaped written c (g h) =
      (writeFrameLoop escaped written c h).map (Prod.map id (Prod.map id g)) := by
  fun_induction writeFrameLoop escaped written c h with
  | case1 written h more ended =>
    rw [writeFrameLoop_eq, if_pos more, unread.write, ended]
    rfl
  | case2 written h more n h₁ wrote ih =>
    rw [writeFrameLoop_eq, if_pos more, unread.write, wrote]
    exact ih
  | case3 written h more h₁ interrupted ih =>
    rw [writeFrameLoop_eq, if_pos more, unread.write, interrupted]
    exact (if_pos rfl).trans ih
  | case4 written h more e h₁ failed other blocked =>
    rw [writeFrameLoop_eq, if_pos more, unread.write, failed]
    exact (if_neg other).trans (if_pos blocked)
  | case5 written h more e h₁ failed other notBlocked =>
    rw [writeFrameLoop_eq, if_pos more, unread.write, failed]
    exact (if_neg other).trans (if_neg notBlocked)
  | case6 written h done =>
    rw [writeFrameLoop_eq, if_neg done]
    rfl

/-- `mdr_frameconn_write_frame` allocates and writes, and reads nothing. -/
theorem writeFrame_unread (heap : Heap) (c : FrameConn) (h : Host) (frame : Frame) :
    c.writeFrame heap (g h) frame =
      (c.writeFrame heap h frame).map (Prod.map id (Prod.map id g)) := by
  unfold writeFrame
  rw [flushWrite_unread unread]
  rcases c.flushWrite h with _ | ⟨result, c₁, h₁⟩
  · rfl
  have errno := unread.errno h₁
  simp only [Option.map_some, Prod.map, id, Option.bind_eq_bind, Option.bind_some, errno]
  split
  · rfl
  rw [escapeFrame_hidden unread.toHidden]
  rcases escapeFrame heap frame h₁ with ⟨_ | escaped, h₂⟩
  · rfl
  dsimp only [Prod.map, id]
  split
  · exact congrArg (fun h => some (-1, c₁, h)) (unread.setErrno h₂ ewouldblock).symm
  · exact writeFrameLoop_unread unread escaped 0 c₁ h₂

end Writing

end FrameConn

/-! ## User code -/

/-- A change of the host of a connection. -/
def State.mapHost (g : Host → Host) (s : State) : State := { s with host := g s.host }

section UserCode

variable {g : Host → Host} (hidden : Host.Hidden g) (env : Env)
include hidden

/-- `mdr_packetconn_make_request` only allocates. -/
theorem makeRequest_hidden (packet : Packet) (spec : ReplySpecifier) (callbacks : Callbacks)
    (s : State) :
    makeRequest env packet spec callbacks (s.mapHost g) =
      (makeRequest env packet spec callbacks s).map (Prod.map id (State.mapHost g)) := by
  have made := Packet.toFrame_hidden hidden env.heap packet s.host
  unfold makeRequest
  rw [State.mapHost, made]
  rcases packet.toFrame env.heap s.host with _ | ⟨_ | frame, h⟩
  · rfl
  · rfl
  have allocated := Host.malloc_hidden hidden env.heap h
  simp only [Option.map_some, Prod.map, id, Option.bind_eq_bind, Option.bind_some, allocated]
  rcases h.malloc env.heap with ⟨_ | junk, h'⟩
  · rfl
  · have mallocs := hidden.mallocs h'
    simp only [mallocs]
    rfl

theorem subscribe_hidden (spec : ReplySpecifier) (result : Option FnPtr) (userData : Nat)
    (s : State) :
    subscribe env spec result userData (s.mapHost g) =
      Prod.map id (State.mapHost g) (subscribe env spec result userData s) := by
  have allocated := Host.malloc_hidden hidden env.heap s.host
  unfold subscribe
  rw [State.mapHost, allocated]
  rcases s.host.malloc env.heap with ⟨_ | junk, h⟩ <;> rfl

/-- User code has no access to the socket. -/
theorem userCall_hidden (s : State) (c : UserCall) :
    userCall env (s.mapHost g) c = (userCall env s c).map (State.mapHost g) := by
  cases c with
  | makeRequest packet spec callbacks =>
    rw [userCall, userCall, makeRequest_hidden hidden, Option.map_map, Option.map_map]
    rfl
  | subscribe spec result userData =>
    rw [userCall, userCall, subscribe_hidden hidden]
    rfl
  | removeSubscription handle => rfl

theorem userCalls_hidden (calls : List UserCall) (s : State) :
    calls.foldlM (userCall env) (s.mapHost g) =
      (calls.foldlM (userCall env) s).map (State.mapHost g) := by
  induction calls generalizing s with
  | nil => rfl
  | cons c rest ih =>
    rw [List.foldlM_cons, List.foldlM_cons, userCall_hidden hidden]
    cases userCall env s c with
    | none => rfl
    | some t => exact ih t

/-- Nor has it in a callback. -/
theorem runCallback_hidden (event : Event) (s : State) :
    runCallback env event (s.mapHost g) = (runCallback env event s).map (State.mapHost g) :=
  userCalls_hidden hidden env _ { s.record [event] with calls := s.calls + 1 }

theorem callResult_hidden (request : Request) (packet : Option Packet) (s : State) :
    callResult env request packet (s.mapHost g) =
      (callResult env request packet s).map (State.mapHost g) := by
  unfold callResult
  split
  · rfl
  · exact runCallback_hidden hidden env _ s

theorem callError_hidden (request : Request) (e : Errno) (s : State) :
    callError env request e (s.mapHost g) =
      (callError env request e s).map (State.mapHost g) := by
  unfold callError
  split
  · rfl
  · rename_i fn isSet
    have set : ({ s.mapHost g with host := { (s.mapHost g).host with errno := e } } : State) =
        State.mapHost g { s with host := { s.host with errno := e } } :=
      congrArg (fun h => ({ s with host := h } : State)) (hidden.setErrno s.host e).symm
    rw [set]
    exact runCallback_hidden hidden env _ { s with host := { s.host with errno := e } }

/-- A request is given up without the socket. -/
theorem giveUp_hidden (now : Timespec) (head : Request) (s : State) :
    giveUp env now head (s.mapHost g) = (giveUp env now head s).map (State.mapHost g) := by
  have ended (e : Errno) (t : State) :
      ((callError env head e (t.mapHost g)).bind fun t => some t.advanceFrameQueue) =
        ((callError env head e t).bind fun t => some t.advanceFrameQueue).map
          (State.mapHost g) := by
    rw [callError_hidden hidden]
    cases callError env head e t <;> rfl
  unfold giveUp
  cases head.acked with
  | true => exact ended _ (s.record [.expired now, .finished head .noReply])
  | false =>
    exact ended _ ((s.record [.expired now, .finished head .noAck]).setQueue s.conn.queue.flip)

/-- An ACK that was read is acted on without the socket. -/
theorem receiveAck_hidden (now : Timespec) (frame : Frame) (s : State) :
    receiveAck env now frame (s.mapHost g) =
      (receiveAck env now frame s).map (State.mapHost g) := by
  have sameQueue : (s.mapHost g).conn.queue = s.conn.queue := rfl
  unfold receiveAck
  rw [sameQueue]
  split
  · rfl
  rename_i head rest first
  split
  · split
    · exact callResult_hidden hidden env head none
        (s.record [.finished head (.ack frame)]).advanceFrameQueue
    · rfl
  · rfl

theorem notify_hidden (packet : Packet) (node : Subscription) (s : State) :
    notify env packet node (s.mapHost g) = (notify env packet node s).map (State.mapHost g) := by
  unfold notify
  split
  · split
    · exact runCallback_hidden hidden env _ s
    · rfl
  · rfl

/-- The subscriptions are told without the socket. The induction is on the rounds. -/
theorem dispatch_hidden (packet : Packet) (rounds : Nat) (handle : Option Handle) (s : State) :
    dispatch env packet rounds handle (s.mapHost g) =
      (dispatch env packet rounds handle s).map (State.mapHost g) := by
  induction rounds generalizing handle s with
  | zero => cases handle <;> rfl
  | succ rounds ih =>
    cases handle with
    | none => rfl
    | some handle =>
      have nodes : (s.mapHost g).conn.subscriptions = s.conn.subscriptions := rfl
      simp only [dispatch, Option.bind_eq_bind, nodes]
      rw [Option.map_bind]
      refine congrArg (Option.bind _) (funext fun node => ?_)
      rw [notify_hidden hidden, Function.comp_apply]
      rcases notify env packet node s with _ | t
      · rfl
      have later : (t.mapHost g).conn.subscriptions = t.conn.subscriptions := rfl
      rw [Option.map_some, Option.bind_some, Option.bind_some, later]
      rcases nextSubscription handle t.conn.subscriptions with _ | next
      · rfl
      · exact ih next t

/-- So a packet that was read is acted on without the socket. -/
theorem receivePacket_hidden (packet : Packet) (s : State) :
    receivePacket env packet (s.mapHost g) =
      (receivePacket env packet s).map (State.mapHost g) := by
  have sameQueue : (s.mapHost g).conn.queue = s.conn.queue := rfl
  have toSubscriptions := dispatch_hidden hidden env packet env.limit
    (s.conn.subscriptions.head?.map Subscription.handle)
    (s.record [.parsed packet s.conn.queue.requests.head?])
  unfold receivePacket
  dsimp only [State.record_conn]
  rw [sameQueue]
  split
  · exact toSubscriptions
  rename_i head rest first
  split
  · exact callResult_hidden hidden env head (some packet)
      ((s.record [.parsed packet s.conn.queue.requests.head?]).record
        [.finished head (.reply packet)]).advanceFrameQueue
  · exact toSubscriptions

end UserCode

/-! ## The parts of a call -/

section Parts

variable {g : Host → Host} (unread : Host.Unread g) (env : Env)
include unread

/-- Whether a call failed for good can be told from its errno. -/
theorem wouldBlock_unread (h : Host) : wouldBlock (g h) = wouldBlock h := by
  rw [wouldBlock, unread.errno, wouldBlock]

theorem flushPart_unread (writable : Bool) (s : State) :
    flushPart writable (s.mapHost g) =
      (flushPart writable s).map (Prod.map id (State.mapHost g)) := by
  cases writable with
  | false => rfl
  | true =>
    have flushed := FrameConn.flushWrite_unread unread s.conn.fconn s.host
    simp only [flushPart, State.mapHost, if_true, Option.bind_eq_bind, flushed]
    rcases s.conn.fconn.flushWrite s.host with _ | ⟨result, c, h⟩
    · rfl
    simp only [Option.map_some, Option.bind_some, Prod.map, id, wouldBlock_unread unread]
    split <;> rfl

/-- A request is written whatever there is to read. -/
theorem transmit_unread (now : Timespec) (head : Request) (s : State) :
    transmit env now head (s.mapHost g) =
      (transmit env now head s).map (Prod.map id (State.mapHost g)) := by
  have wrote := FrameConn.writeFrame_unread unread env.heap s.conn.fconn s.host head.frame
  simp only [transmit, State.mapHost, Option.bind_eq_bind, wrote]
  rcases s.conn.fconn.writeFrame env.heap s.host head.frame with _ | ⟨result, c, h⟩
  · rfl
  simp only [Option.map_some, Option.bind_some, Prod.map, id, wouldBlock_unread unread]
  split
  · split <;> rfl
  · rfl

/-- The part of a call that writes does not look at what there is to read. -/
theorem sendPart_unread (now : Timespec) (writable : Bool) (s : State) :
    sendPart env now writable (s.mapHost g) =
      (sendPart env now writable s).map (Prod.map id (State.mapHost g)) := by
  have sameQueue : (s.mapHost g).conn.queue = s.conn.queue := rfl
  unfold sendPart
  rw [sameQueue]
  split
  · rfl
  rename_i head rest first
  split
  · split
    · exact transmit_unread unread env now head s
    · rfl
  split
  · split
    · rw [giveUp_hidden unread.toHidden]
      cases giveUp env now head s <;> rfl
    · exact transmit_unread unread env now head s
  · rfl

/-- A data frame is acknowledged and acted on whatever is to be read next. -/
theorem receiveData_unread (frame : Frame) (s : State) :
    receiveData env frame (s.mapHost g) =
      (receiveData env frame s).map (Prod.map id (State.mapHost g)) := by
  have wrote := FrameConn.writeFrame_unread unread env.heap s.conn.fconn s.host (ackFrame frame)
  simp only [receiveData, State.mapHost, Option.bind_eq_bind, wrote]
  rcases s.conn.fconn.writeFrame env.heap s.host (ackFrame frame) with _ | ⟨result, c, h⟩
  · rfl
  simp only [Option.map_some, Option.bind_some, Prod.map, id, State.record_host,
    Packet.fromFrame_hidden unread.toHidden]
  rcases Packet.fromFrame env.heap frame h with _ | ⟨_ | packet, h'⟩
  · rfl
  · rfl
  have received := receivePacket_hidden unread.toHidden env packet
    { { s with conn := { s.conn with fconn := c }, host := h }.record
      [.wroteAck (ackFrame frame) result] with host := h' }
  simp only [Option.map_some, Option.bind_some, Prod.map, id]
  refine (congrArg (Option.bind · _) received).trans ?_
  cases receivePacket env packet _ <;> rfl

end Parts

end Libmdr
