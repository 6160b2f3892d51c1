import Libmdr.FrameConn.Attempts
import Libmdr.PacketConn.Integrity
import Libmdr.PacketConn.Walk

/-!
# What a connection puts on the wire

Only `mdr_frameconn_write_frame` and the flush give bytes to the socket, and the first records
each of its calls. In a run that leaves nothing in the write buffer the wire is therefore a piece
of a frame for each recorded call, and a peer reads the frames whose call returned 0, in the order
of the record: no byte of a frame that broke off, and none of the requests and callbacks in
between, makes a difference.
-/

namespace Libmdr
set_option autoImplicit false

/-- The recorded calls of `mdr_frameconn_write_frame`. -/
def attemptsIn (events : List Event) : List (Frame × Int) := events.filterMap Event.attempt

theorem attemptsIn_append (xs ys : List Event) :
    attemptsIn (xs ++ ys) = attemptsIn xs ++ attemptsIn ys := List.filterMap_append

@[simp] theorem attemptsIn_accepted (requests : List Request) :
    attemptsIn (requests.map .accepted) = [] := by
  rw [attemptsIn, List.filterMap_map, List.filterMap_eq_nil_iff]
  exact fun _ _ => rfl

/-- A frame whose writing was attempted was handed over. -/
theorem exists_handedOver {events : List Event} {attempt : Frame × Int}
    (isIn : attempt ∈ attemptsIn events) :
    ∃ event ∈ events, event.handedOver = some attempt.1 := by
  obtain ⟨event, isEvent, made⟩ := List.mem_filterMap.mp isIn
  refine ⟨event, isEvent, ?_⟩
  cases event <;> cases made <;> rfl

/-! ## Without a write -/

/-- Other bytes that the socket has accepted. -/
def Host.withWire (wire : List UInt8) (h : Host) : Host := { h with wire }

theorem Host.hidden_withWire (wire : List UInt8) : Host.Hidden (Host.withWire wire) :=
  ⟨fun _ => rfl, fun _ => rfl, fun _ _ => rfl, fun _ _ => rfl⟩

/-- What does not see the wire leaves it alone. -/
theorem userCall_wire {env : Env} {s t : State} {c : UserCall} (run : userCall env s c = some t) :
    t.host.wire = s.host.wire := by
  have same := userCall_hidden (Host.hidden_withWire s.host.wire) env s c
  rw [show s.mapHost (Host.withWire s.host.wire) = s from rfl, run] at same
  exact congrArg (fun t => t.host.wire) (Option.some.inj same)

theorem Packet.fromFrame_wire {heap : Heap} {frame : Frame} {h h' : Host}
    {packet : Option Packet} (run : Packet.fromFrame heap frame h = some (packet, h')) :
    h'.wire = h.wire := by
  have same := Packet.fromFrame_hidden (Host.hidden_withWire h.wire) heap frame h
  rw [show Host.withWire h.wire h = h from rfl, run] at same
  exact congrArg (fun out => out.2.wire) (Option.some.inj same)

/-! ## With writes -/

/-- What went to the socket from one state to another. Pending bytes stay in the write buffer;
when there are none behind it, the wire has got a piece of a frame for each recorded call. -/
structure State.Sent (s t : State) : Prop where
  pending : s.conn.fconn.writeBuf <+: t.conn.fconn.writeBuf
  pieces : t.conn.fconn.writeBuf = [] → ∃ events pieces, t.log = s.log ++ events ∧
    t.host.wire = s.host.wire ++ pieces.flatten ∧
    List.Forall₂ (fun attempt piece => FrameConn.Gave attempt.1 attempt.2 piece)
      (attemptsIn events) pieces

namespace State.Sent

/-- Nothing is written. -/
theorem of_silent {s t : State} (writeBuf : t.conn.fconn.writeBuf = s.conn.fconn.writeBuf)
    (wire : t.host.wire = s.host.wire)
    (silent : ∃ events, t.log = s.log ++ events ∧ attemptsIn events = []) : s.Sent t where
  pending := writeBuf ▸ List.prefix_refl _
  pieces := fun _ => by
    obtain ⟨events, log, none⟩ := silent
    exact ⟨events, [], log, by simp [wire], by rw [none]; exact .nil⟩

theorem of_same {s t : State} (writeBuf : t.conn.fconn.writeBuf = s.conn.fconn.writeBuf)
    (wire : t.host.wire = s.host.wire) (log : t.log = s.log) : s.Sent t :=
  of_silent writeBuf wire ⟨[], by rw [log, List.append_nil], rfl⟩

theorem refl (s : State) : s.Sent s := of_same rfl rfl rfl

theorem trans {s t u : State} (front : s.Sent t) (back : t.Sent u) : s.Sent u where
  pending := front.pending.trans back.pending
  pieces := fun drained => by
    have between : t.conn.fconn.writeBuf = [] := by
      have pending := back.pending
      rw [drained] at pending
      exact List.prefix_nil.mp pending
    obtain ⟨xs, first, log, wire, gave⟩ := front.pieces between
    obtain ⟨ys, second, log', wire', gave'⟩ := back.pieces drained
    refine ⟨xs ++ ys, first ++ second, by rw [log', log, List.append_assoc], ?_, ?_⟩
    · rw [wire', wire, List.flatten_append, List.append_assoc]
    · rw [attemptsIn_append]
      exact List.rel_append gave gave'

/-- One call of `mdr_frameconn_write_frame`, recorded by an event. -/
theorem of_writeFrame {env : Env} {s : State} {frame : Frame} {written : Int} {fconn : FrameConn}
    {host : Host} {event : Event}
    (wrote : s.conn.fconn.writeFrame env.heap s.host frame = some (written, fconn, host))
    (made : event.attempt = some (frame, written)) :
    s.Sent ((s.afterRead fconn host).record [event]) where
  pending := FrameConn.writeFrame_pending wrote
  pieces := fun drained => by
    obtain ⟨piece, wire, gave⟩ := FrameConn.writeFrame_gave wrote drained
    have only : attemptsIn [event] = [(frame, written)] := List.filterMap_cons_some made
    refine ⟨[event], [piece], rfl, ?_, ?_⟩
    · rw [List.flatten_singleton]
      exact wire
    · rw [only]
      exact .cons gave .nil

end State.Sent

/-- Around each thing that happens in a run. -/
theorem walk_sent (env : Env) : Walk env (fun _ _ => True) State.Sent where
  refl := .refl
  trans := .trans
  user := fun _ run => by
    obtain ⟨new, added⟩ := userCall_added run
    exact .of_silent (congrArg FrameConn.writeBuf added.fconn) (userCall_wire run)
      ⟨_, added.log, attemptsIn_accepted new⟩
  record := fun s event plain => by
    refine .of_silent rfl rfl ⟨[event], rfl, List.filterMap_cons_none ?_⟩
    cases event <;> first | rfl | cases plain
  notify := fun _ _ _ => .of_silent rfl rfl ⟨[_], rfl, rfl⟩
  fields := fun fconn _ host log _ =>
    .of_same (congrArg FrameConn.writeBuf fconn) (by rw [host]) log
  flush := fun {s result fconn host} flush => by
    have same := FrameConn.flushWrite_writeBuf flush
    subst same
    refine ⟨List.prefix_refl _, fun drained => ?_⟩
    have nothing : s.conn.fconn.flushWrite s.host = some (0, s.conn.fconn, s.host) :=
      FrameConn.flushWrite_empty drained
    rw [flush] at nothing
    cases nothing
    exact (State.Sent.refl s).pieces drained
  write := fun wrote made => .of_writeFrame wrote made
  read := fun {s frame fconn host head now} read => by
    obtain ⟨writeBuf, wire⟩ := FrameConn.readFrame_sameWriting read
    exact .of_silent writeBuf wire ⟨_, rfl, by cases frame <;> rfl⟩
  parse := fun {s frame packet host head} parsed =>
    .of_silent rfl (Packet.fromFrame_wire parsed) ⟨_, rfl, by cases packet <;> rfl⟩

theorem run_sent {env : Env} {calls : List Call} {s t : State}
    (ran : run env calls s = some t) : s.Sent t :=
  (walk_sent env).run (fun _ _ _ => trivial) (fun _ _ _ => trivial) ran

/-! ## Runs -/

/-- The wire of a new connection, in pieces. -/
theorem run_pieces {env : Env} {calls : List Call} {fconn : FrameConn} {host : Host} {s : State}
    (ran : run env calls (State.start fconn host) = some s) (unsent : host.wire = [])
    (drained : s.conn.fconn.writeBuf = []) :
    ∃ pieces, s.host.wire = pieces.flatten ∧
      List.Forall₂ (fun attempt piece => FrameConn.Gave attempt.1 attempt.2 piece)
        (attemptsIn s.log) pieces ∧
      ∀ attempt ∈ attemptsIn s.log, attempt.1.WellFormed := by
  obtain ⟨events, pieces, log, wire, gave⟩ := (run_sent ran).pieces drained
  have wholeLog : s.log = events := log
  rw [← wholeLog] at gave
  refine ⟨pieces, ?_, gave, ?_⟩
  · rw [wire]
    change host.wire ++ _ = _
    rw [unsent, List.nil_append]
  · obtain ⟨records, recorded⟩ := run_log ran
    have owes : ((State.start fconn host).session false).OwesEndings := fun _ isIn => by cases isIn
    obtain ⟨-, handedOver⟩ := sound_run records.run (sound_start fconn) owes rfl recorded.sourced
    intro attempt isIn
    obtain ⟨event, isEvent, handed⟩ := exists_handedOver isIn
    exact (handedOver event isEvent _ handed).wellFormed

/-- **A peer reads what was written whole.** In a run that leaves the write buffer empty, whatever
the socket did to the calls of `write` in between: a new frame connection that reads the bytes the
socket has accepted, cut into chunks in any way, gets the frames whose
`mdr_frameconn_write_frame` returned 0, requests and ACKs, unchanged and in order. -/
theorem run_peer_reads {env : Env} {calls : List Call} {fconn : FrameConn} {host peer : Host}
    {s : State} {chunks : List (List UInt8)}
    (ran : run env calls (State.start fconn host) = some s) (unsent : host.wire = [])
    (drained : s.conn.fconn.writeBuf = []) (cut : chunks.flatten = s.host.wire)
    (reads : peer.reads = Host.chunked chunks) :
    ∃ c h, FrameConn.readAll .fresh peer =
      some (FrameConn.writtenWhole (attemptsIn s.log), c, h) := by
  obtain ⟨pieces, wire, gave, wellFormed⟩ := run_pieces ran unsent drained
  exact FrameConn.readAll_of_attempts gave wellFormed (cut.trans wire) reads

/-- A frame that breaks off after five bytes, and is sent again. -/
theorem run_peer_reads_again :
    ∃ s, run Env.idle [.user powerOff, .process ⟨0, 0⟩ false true, .process ⟨0, 0⟩ false true]
        (State.start .fresh (.listing [] [.wrote 5, .err 104, .wrote 100])) = some s ∧
      (attemptsIn s.log).map Prod.snd = [-1, 0] ∧ s.host.wire.length = 5 + 12 ∧
      ∃ c h, FrameConn.readAll .fresh
          (.listing (Host.chunked [s.host.wire.take 9, s.host.wire.drop 9]) []) =
        some (FrameConn.writtenWhole (attemptsIn s.log), c, h) := by
  obtain ⟨s, ran, shown⟩ := (Option.any_eq_true _ _).mp (show (run Env.idle
    [.user powerOff, .process ⟨0, 0⟩ false true, .process ⟨0, 0⟩ false true]
    (State.start .fresh (.listing [] [.wrote 5, .err 104, .wrote 100]))).any
    (fun s => decide ((attemptsIn s.log).map Prod.snd = [-1, 0] ∧ s.host.wire.length = 5 + 12 ∧
      s.conn.fconn.writeBuf = [])) = true by decide +kernel)
  obtain ⟨results, length, drained⟩ := of_decide_eq_true shown
  exact ⟨s, ran, results, length, run_peer_reads ran rfl drained (by simp) rfl⟩

/-- **Pending bytes are never removed.** Whatever happens to a connection with bytes in its write
buffer, and however often the socket accepts them, they stay at its front, and it asks to be
called for writing for ever. -/
theorem run_pending {env : Env} {calls : List Call} {s t : State}
    (ran : run env calls s = some t) (pending : s.conn.fconn.writeBuf ≠ []) :
    s.conn.fconn.writeBuf <+: t.conn.fconn.writeBuf ∧ t.conn.fconn.writeBuf ≠ [] ∧
      ∀ now, (pollInfo now t).write = true := by
  have stays := (run_sent ran).pending
  have some : t.conn.fconn.writeBuf ≠ [] := by
    intro drained
    rw [drained] at stays
    exact pending (List.prefix_nil.mp stays)
  refine ⟨stays, some, fun now => ?_⟩
  have waiting : t.conn.fconn.waitingWrite = true := decide_eq_true (List.length_pos_iff.mpr some)
  unfold pollInfo
  split <;> simp [waiting]

/-- Three bytes of a request are accepted before the socket blocks; later it takes all it is
offered. -/
theorem run_pending_power_off :
    ∃ s t, run Env.idle [.user powerOff, .process ⟨0, 0⟩ false true] (State.start .fresh
        (.listing [] [.wrote 3, .err eagain, .wrote 100, .err eagain, .err eagain, .wrote 100])) =
          some s ∧
      run Env.idle [.process ⟨0, 0⟩ false true] s = some t ∧
      s.conn.fconn.writeBuf.length = 9 ∧
      s.conn.fconn.writeBuf <+: t.conn.fconn.writeBuf ∧ t.conn.fconn.writeBuf ≠ [] ∧
      ∀ now, (pollInfo now t).write = true := by
  obtain ⟨s, ran, shown⟩ := (Option.any_eq_true _ _).mp (show (run Env.idle
    [.user powerOff, .process ⟨0, 0⟩ false true] (State.start .fresh
      (.listing [] [.wrote 3, .err eagain, .wrote 100, .err eagain, .err eagain, .wrote 100]))).any
    (fun s => (run Env.idle [.process ⟨0, 0⟩ false true] s).any fun _ =>
      decide (s.conn.fconn.writeBuf.length = 9)) = true by decide +kernel)
  obtain ⟨t, later, length⟩ := (Option.any_eq_true _ _).mp shown
  have nine : s.conn.fconn.writeBuf.length = 9 := of_decide_eq_true length
  have some : s.conn.fconn.writeBuf ≠ [] := by
    intro none
    rw [none] at nine
    cases nine
  exact ⟨s, t, ran, later, nine, run_pending later some⟩

end Libmdr
