import Libmdr.FrameConn.Writing
import Libmdr.PacketConn.Session
import Mathlib.Logic.Relation

/-!
# What a call does, move by move

Every function of the packet connection is a sequence of moves of a few kinds: the
host is called, an event is recorded, fields of the queue change, the queue is advanced,
user code runs. One lemma for each function says so; what every move keeps then holds
behind every call.
-/

namespace Libmdr
set_option autoImplicit false

/-! ## Packets -/

theorem Layout.write_sameInput {heap : Heap} {type : UInt8} {layout : Layout} {h h' : Host}
    {frame : Option Frame} (run : layout.write heap type h = some (frame, h')) :
    h.SameInput h' := by
  unfold Layout.write at run
  split at run
  · rename_i allocated
    cases run
    exact Host.malloc_sameInput allocated
  · rename_i allocated
    dsimp only at run
    split at run
    · cases run
    · cases run
      exact Host.malloc_sameInput allocated

theorem writeFrames_sameInput {heap : Heap} {type : UInt8} {layouts : List Layout} {h h' : Host}
    {frame : Option Frame} (run : writeFrames heap type layouts h = some (frame, h')) :
    h.SameInput h' := by
  induction layouts generalizing h with
  | nil =>
    cases run
    exact .refl _
  | cons layout rest ih =>
    cases rest with
    | nil => exact Layout.write_sameInput run
    | cons next more =>
      simp only [writeFrames, Option.bind_eq_bind, Option.bind_eq_some_iff] at run
      obtain ⟨⟨first, h₁⟩, written, run⟩ := run
      have before := Layout.write_sameInput written
      cases first with
      | none =>
        cases run
        exact before
      | some first => exact before.trans (ih run)

/-- Encoding takes nothing from the socket. -/
theorem Packet.toFrame_sameInput {heap : Heap} {packet : Packet} {h h' : Host}
    {frame : Option Frame} (run : packet.toFrame heap h = some (frame, h')) : h.SameInput h' := by
  simp only [Packet.toFrame, Option.bind_eq_bind, Option.bind_eq_some_iff] at run
  obtain ⟨layouts, -, run⟩ := run
  exact writeFrames_sameInput run

/-- Nor does decoding: its bytes are in the frame. -/
theorem Packet.fromFrame_sameInput {heap : Heap} {frame : Frame} {h h' : Host}
    {packet : Option Packet} (run : Packet.fromFrame heap frame h = some (packet, h')) :
    h.SameInput h' := by
  unfold Packet.fromFrame at run
  split at run
  · cases run
    exact ⟨rfl, rfl⟩
  · split at run
    · cases run
      exact ⟨rfl, rfl⟩
    · split at run
      · cases run
      · split at run
        · cases run
          exact ⟨rfl, rfl⟩
        · split at run <;> cases run <;> exact ⟨rfl, rfl⟩

/-! ## Moves -/

/-- The events that a call at `now` records, with its reading of the clock. Accepted
requests are recorded by user code. -/
def Event.Own (now : Timespec) : Event → Prop
  | .accepted _ => False
  | .wrote _ _ t | .expired t | .received _ _ t => t = now
  | .wroteAck frame _ => ∃ received, frame = ackFrame received
  | _ => True

/-- The addresses of the requests, from the first one to the last. -/
def RequestQueue.handles (q : RequestQueue) : List Handle := q.requests.map Request.handle

/-- One move of a call at `now`. -/
inductive Move (env : Env) (now : Timespec) (s : State) : State → Prop
  /-- The host or the frame connection is called, but not to read. -/
  | host (fconn : FrameConn) (host : Host) (same : s.conn.fconn.SameReading s.host fconn host) :
      Move env now s { s with conn := { s.conn with fconn }, host }
  | record (event : Event) (own : event.Own now) : Move env now s (s.record [event])
  /-- The next sequence id or fields of the first request change. -/
  | queue (queue : RequestQueue) (same : queue.handles = s.conn.queue.handles) :
      Move env now s (s.setQueue queue)
  | advance : Move env now s s.advanceFrameQueue
  /-- A callback is counted. -/
  | counted : Move env now s { s with calls := s.calls + 1 }
  | user (c : UserCall) {s' : State} (run : userCall env s c = some s') : Move env now s s'

/-- Moves one after the other. -/
abbrev Moves (env : Env) (now : Timespec) : State → State → Prop :=
  Relation.ReflTransGen (Move env now)

/-- A move, or a call of `mdr_frameconn_read_frame`. -/
inductive Act (env : Env) (now : Timespec) (s : State) : State → Prop
  | move {s' : State} (move : Move env now s s') : Act env now s s'
  | read (frame : Option Frame) (fconn : FrameConn) (host : Host)
      (run : s.conn.fconn.readFrame s.host = some (frame, fconn, host)) :
      Act env now s { s with conn := { s.conn with fconn }, host }

/-- Moves and reads one after the other. -/
abbrev Acts (env : Env) (now : Timespec) : State → State → Prop :=
  Relation.ReflTransGen (Act env now)

/-- Fields of the first request change, its address does not. -/
theorem RequestQueue.handles_mapHead (q : RequestQueue) {f : Request → Request}
    (same : ∀ request, (f request).handle = request.handle) :
    (q.mapHead f).handles = q.handles :=
  map_mapHead same q

section

variable {env : Env} {now : Timespec} {s s' : State} {result : Int}

theorem Moves.acts (moves : Moves env now s s') : Acts env now s s' :=
  Relation.ReflTransGen.mono (fun _ _ move => Act.move move) _ _ moves

/-! ## User code -/

/-- What user code does in a callback is made of its calls. -/
theorem userCalls_moves {calls : List UserCall} (run : calls.foldlM (userCall env) s = some s') :
    Moves env now s s' :=
  Trace.foldlM_related (Moves env now) (fun _ => .refl) (fun _ _ _ => .trans)
    (fun _ c _ _ first => .single (.user c first)) run

/-- A callback is recorded and counted, and then it runs. -/
theorem runCallback_moves {event : Event} (own : event.Own now)
    (run : runCallback env event s = some s') : Moves env now s s' :=
  .head (.record event own) (.head .counted (userCalls_moves run))

theorem callResult_moves {request : Request} {packet : Option Packet}
    (run : callResult env request packet s = some s') : Moves env now s s' := by
  unfold callResult at run
  split at run
  · cases run
    exact .refl
  · exact runCallback_moves (by trivial) run

/-- An error callback finds its error in errno. -/
theorem callError_moves {request : Request} {e : Errno}
    (run : callError env request e s = some s') : Moves env now s s' := by
  unfold callError at run
  split at run
  · cases run
    exact .refl
  · have sets : Move env now s { s with host := { s.host with errno := e } } :=
      .host s.conn.fconn _ (.of_input ⟨rfl, rfl⟩)
    exact .head sets (runCallback_moves (by trivial) run)

/-! ## Sending -/

/-- The loop of `mdr_frameconn_flush_write` is one move: the host is called. -/
theorem flushPart_moves {writable : Bool} (run : flushPart writable s = some (result, s')) :
    Moves env now s s' := by
  obtain ⟨-, -, rfl⟩ | ⟨flushed, fconn, host, -, flush, rfl, -⟩ := flushPart_cases run
  · exact .refl
  · exact .single (.host fconn host (FrameConn.flushWriteLoop_sameReading flush))

/-- A write that returned 0 marks the request as sent. -/
theorem transmit_moves {head : Request} (run : transmit env now head s = some (result, s')) :
    Moves env now s s' := by
  obtain ⟨written, fconn, host, wrote, -, rfl⟩ := transmit_cases run
  have moves : Moves env now s ((s.afterRead fconn host).record [.wrote head written now]) :=
    .head (.host fconn host (FrameConn.writeFrame_sameReading wrote)) (.single (.record _ rfl))
  split
  · exact moves
  · exact moves.tail (.queue _ (RequestQueue.handles_mapHead _ fun _ => rfl))

/-- Giving up: the record, the sequence id when no ACK came, the error callback, and the next
request. -/
theorem giveUp_moves {head : Request} (run : giveUp env now head s = some s') :
    Moves env now s s' := by
  simp only [giveUp, Option.bind_eq_bind, Option.bind_eq_some_iff] at run
  obtain ⟨t, called, run⟩ := run
  cases run
  have late : Move env now s (s.record [.expired now]) := .record (.expired now) rfl
  have recorded := Relation.ReflTransGen.tail (.single late)
    (.record (.finished head (if head.acked then .noReply else .noAck)) trivial)
  rw [State.record, State.record_log, List.append_assoc] at recorded
  refine recorded.trans (.trans ?_ ((callError_moves called).tail .advance))
  split
  · exact .refl
  · exact .single (.queue _ rfl)

/-- A request is written, or one that has waited too long is given up. -/
theorem sendPart_moves {writable : Bool} (run : sendPart env now writable s = some (result, s')) :
    Moves env now s s' := by
  obtain ⟨head, rest, -, -, call⟩ | ⟨-, -, rfl | ⟨head, rest, -, -, -, -, given⟩⟩ :=
    sendPart_cases run
  · exact transmit_moves call
  · exact .refl
  · exact giveUp_moves given

/-! ## Receiving -/

/-- An ACK ends a request that waits for no reply, and marks one that does. -/
theorem receiveAck_moves {frame : Frame} (run : receiveAck env now frame s = some s') :
    Moves env now s s' := by
  unfold receiveAck at run
  split at run
  · cases run
    exact .refl
  · rename_i head rest first
    split at run
    · split at run
      · refine .head (.record (.finished head (.ack frame)) trivial) ?_
        exact .head .advance (callResult_moves run)
      · cases run
        refine .head (.record (.acked head) trivial) (.single (.queue _ ?_))
        exact RequestQueue.handles_mapHead _ fun _ => rfl
    · cases run
      exact .refl

theorem notify_moves {packet : Packet} {node : Subscription}
    (run : notify env packet node s = some s') : Moves env now s s' := by
  unfold notify at run
  split at run
  · split at run
    · exact runCallback_moves (by trivial) run
    · cases run
      exact .refl
  · cases run
    exact .refl

/-- One subscription after the other is told. The induction is on the rounds. -/
theorem dispatch_moves {packet : Packet} {rounds : Nat} {handle : Option Handle}
    (run : dispatch env packet rounds handle s = some s') : Moves env now s s' := by
  induction rounds generalizing handle s with
  | zero =>
    cases handle with
    | none =>
      cases run
      exact .refl
    | some handle => cases run
  | succ rounds ih =>
    cases handle with
    | none =>
      cases run
      exact .refl
    | some handle =>
      simp only [dispatch, Option.bind_eq_bind, Option.bind_eq_some_iff] at run
      obtain ⟨node, -, t, notified, next, -, run⟩ := run
      exact (notify_moves notified).trans (ih run)

/-- The packet ends the first request, or the subscriptions are told. -/
theorem receivePacket_moves {packet : Packet} (run : receivePacket env packet s = some s') :
    Moves env now s s' := by
  unfold receivePacket at run
  dsimp only at run
  refine .head (.record (.parsed packet s.conn.queue.requests.head?) trivial) ?_
  split at run
  · exact dispatch_moves run
  · rename_i head rest first
    split at run
    · refine .head (.record (.finished head (.reply packet)) trivial) ?_
      exact .head .advance (callResult_moves run)
    · exact dispatch_moves run

/-- The ACK is written before the packet is decoded. -/
theorem receiveData_moves {frame : Frame} (run : receiveData env frame s = some (result, s')) :
    Moves env now s s' := by
  simp only [receiveData, Option.bind_eq_bind, Option.bind_eq_some_iff] at run
  obtain ⟨⟨written, fconn, host⟩, wrote, ⟨packet, host'⟩, parsed, run⟩ := run
  refine .head (.host fconn host (FrameConn.writeFrame_sameReading wrote)) ?_
  refine .head (.record (.wroteAck (ackFrame frame) written) ⟨frame, rfl⟩) ?_
  refine .head (.host fconn host' (.of_input (Packet.fromFrame_sameInput parsed))) ?_
  cases packet with
  | none =>
    cases run
    exact .refl
  | some packet =>
    simp only [Option.bind_eq_some_iff] at run
    obtain ⟨t, received, run⟩ := run
    cases run
    exact receivePacket_moves received

theorem receiveFrame_moves {frame : Frame}
    (run : receiveFrame env now frame s = some (result, s')) : Moves env now s s' := by
  unfold receiveFrame at run
  refine .head (.record (.received frame s.conn.queue.requests.head? now) rfl) ?_
  dsimp only at run
  split at run
  · simp only [Option.bind_eq_bind, Option.bind_eq_some_iff] at run
    obtain ⟨t, received, run⟩ := run
    cases run
    exact receiveAck_moves received
  · split at run
    · exact receiveData_moves run
    · cases run
      exact .refl

/-- Of the parts of a call only this one reads. -/
theorem receivePart_acts (run : receivePart env now s = some (result, s')) :
    Acts env now s s' := by
  unfold receivePart at run
  split at run
  · cases run
  · rename_i fconn host read
    cases run
    refine .head (.read none fconn host read) (.single (.move ?_))
    exact .host fconn _ (.of_input ⟨rfl, rfl⟩)
  · rename_i frame fconn host read
    exact .head (.read (some frame) fconn host read) (receiveFrame_moves run).acts

/-- A call of `process` is a sequence of moves and reads. -/
theorem process_acts {readable writable : Bool}
    (run : process env now readable writable s = some (result, s')) : Acts env now s s' :=
  process_related (Acts env now) (fun _ _ _ => .trans)
    (fun _ _ _ flush => (flushPart_moves flush).acts) (fun _ _ _ send => (sendPart_moves send).acts)
    (fun _ _ _ => receivePart_acts) run

end

end Libmdr
