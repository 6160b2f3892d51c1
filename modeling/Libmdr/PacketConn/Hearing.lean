import Libmdr.FrameConn.Passing
import Libmdr.PacketConn.Walk
import Libmdr.PacketConn.Wire

/-!
# What a connection reads

The frames that a connection acts on, over all its calls, are frames of the byte stream that the
socket has delivered, in the stream's order. Nothing in between makes a difference: neither what
is written, nor what user code does, nor errors and interrupted calls of `read`. They are all of
the stream's frames but those still in the read buffer when the stream loses no frame.
-/

namespace Libmdr
set_option autoImplicit false

/-- The frames that were read. -/
def receivedIn (events : List Event) : List Frame :=
  events.filterMap fun
    | .received frame _ _ => some frame
    | _ => none

theorem receivedIn_append (xs ys : List Event) :
    receivedIn (xs ++ ys) = receivedIn xs ++ receivedIn ys := List.filterMap_append

@[simp] theorem receivedIn_accepted (requests : List Request) :
    receivedIn (requests.map .accepted) = [] := by
  rw [receivedIn, List.filterMap_map, List.filterMap_eq_nil_iff]
  exact fun _ _ => rfl

/-- The bytes taken off the stream, and those in the read buffer, are all that was delivered. -/
structure State.Following (history : List UInt8) (s : State) : Prop where
  scanning : FrameConn.Scanning history 0 s.conn.fconn
  stream : history ++ s.conn.fconn.readBuf = s.host.got.flatten

/-- What was read from one state to another. -/
structure State.Heard (s t : State) : Prop where
  grows : ∃ more, t.host.got = s.host.got ++ more
  reads : ∃ events, t.log = s.log ++ events ∧ ∀ history, s.Following history →
    ∃ taken new, t.Following taken ∧
      FrameConn.framesIn none taken = FrameConn.framesIn none history ++ new ∧
      (receivedIn events).Sublist new ∧
      ∀ future, ¬ FrameConn.LosesFrame (t.host.got.flatten ++ future) → receivedIn events = new

namespace State.Heard

variable {s t u : State}

/-- Nothing is read. -/
theorem of_silent (same : s.conn.fconn.SameReading s.host t.conn.fconn t.host)
    (silent : ∃ events, t.log = s.log ++ events ∧ receivedIn events = []) : s.Heard t where
  grows := ⟨[], by rw [same.input.got, List.append_nil]⟩
  reads := by
    obtain ⟨events, log, none⟩ := silent
    obtain ⟨readBuf, readStarted, input⟩ := same
    refine ⟨events, log, fun history following => ⟨history, [], ?_, (List.append_nil _).symm, ?_, ?_⟩⟩
    · obtain ⟨⟨fits, started, stopped⟩, stream⟩ := following
      refine ⟨⟨?_, ?_, ?_⟩, ?_⟩
      · rwa [readBuf]
      · rwa [readStarted, readBuf]
      · rw [readStarted]
        refine fun isStopped => (stopped isStopped).imp_right fun _ => .inl ?_
        simp
      · rw [readBuf, input.got, stream]
    · rw [none]
    · exact fun _ _ => none

theorem of_same (same : s.conn.fconn.SameReading s.host t.conn.fconn t.host)
    (log : t.log = s.log) : s.Heard t :=
  of_silent same ⟨[], by rw [log, List.append_nil], rfl⟩

theorem refl (s : State) : s.Heard s := of_same (.refl _ _) rfl

theorem trans (front : s.Heard t) (back : t.Heard u) : s.Heard u where
  grows := by
    obtain ⟨xs, got⟩ := front.grows
    obtain ⟨ys, got'⟩ := back.grows
    exact ⟨xs ++ ys, by rw [got', got, List.append_assoc]⟩
  reads := by
    obtain ⟨xs, log, early⟩ := front.reads
    obtain ⟨ys, log', late⟩ := back.reads
    obtain ⟨more, grown⟩ := back.grows
    refine ⟨xs ++ ys, by rw [log', log, List.append_assoc], fun history following => ?_⟩
    obtain ⟨between, new, middle, frames, some, all⟩ := early history following
    obtain ⟨taken, newer, ends, frames', some', all'⟩ := late between middle
    refine ⟨taken, new ++ newer, ends, by rw [frames', frames, List.append_assoc], ?_, ?_⟩
    · rw [receivedIn_append]
      exact some.append some'
    · intro future kept
      rw [receivedIn_append, all' future kept]
      refine congrArg (· ++ newer) (all (more.flatten ++ future) ?_)
      rw [grown] at kept
      simpa [List.flatten_append] using kept

end State.Heard

/-- One call of `mdr_frameconn_read_frame`, with the frame recorded. -/
theorem State.Heard.of_readFrame {s : State} {frame : Option Frame} {fconn : FrameConn}
    {host : Host} (head : Option Request) (now : Timespec)
    (read : s.conn.fconn.readFrame s.host = some (frame, fconn, host)) :
    s.Heard ((s.afterRead fconn host).record
      (frame.map fun frame => Event.received frame head now).toList) where
  grows := FrameConn.readFrame_got read
  reads := by
    refine ⟨_, rfl, fun history following => ?_⟩
    obtain ⟨taken, passes⟩ := FrameConn.readFrame_passes following.scanning following.stream read
    obtain ⟨passed, frames, none_passed⟩ := passes.frames
    have recorded : receivedIn (frame.map fun frame => Event.received frame head now).toList =
        frame.toList := by
      cases frame <;> rfl
    refine ⟨taken, passed ++ frame.toList, ⟨passes.scanning, passes.stream⟩, ?_, ?_, ?_⟩
    · rw [frames, List.append_assoc]
    · rw [recorded]
      exact List.sublist_append_right _ _
    · intro future kept
      rw [recorded, none_passed future kept, List.nil_append]

/-- Around each thing that happens in a run. -/
theorem walk_heard (env : Env) : Walk env (fun _ _ => True) State.Heard where
  refl := .refl
  trans := .trans
  user := fun _ run => by
    obtain ⟨new, added⟩ := userCall_added run
    exact .of_silent (userCall_noRead run).reading ⟨_, added.log, receivedIn_accepted new⟩
  record := fun s event plain => by
    refine .of_silent (.refl _ _) ⟨[event], rfl, List.filterMap_cons_none ?_⟩
    cases event <;> first | rfl | cases plain
  notify := fun _ _ _ => .of_silent (.refl _ _) ⟨[_], rfl, rfl⟩
  fields := fun fconn _ host log _ => .of_same (by rw [fconn, host]; exact .of_input ⟨rfl, rfl⟩) log
  flush := fun flush => .of_same (FrameConn.flushWriteLoop_sameReading flush) rfl
  write := fun {s frame written fconn host event} wrote made => by
    refine .of_silent (FrameConn.writeFrame_sameReading wrote)
      ⟨[event], rfl, List.filterMap_cons_none ?_⟩
    cases event <;> first | rfl | cases made
  read := fun {s frame fconn host head now} read => .of_readFrame head now read
  parse := fun {s frame packet host head} parsed =>
    .of_silent (.of_input (Packet.fromFrame_sameInput parsed)) ⟨_, rfl, by cases packet <;> rfl⟩

theorem run_heard {env : Env} {calls : List Call} {s t : State}
    (ran : run env calls s = some t) : s.Heard t :=
  (walk_heard env).run (fun _ _ _ => trivial) (fun _ _ _ => trivial) ran

/-! ## Runs -/

/-- What a new connection has taken off the stream. -/
theorem run_takes {env : Env} {calls : List Call} {host : Host} {s : State}
    (ran : run env calls (State.start .fresh host) = some s) (unread : host.got = []) :
    ∃ taken, taken ++ s.conn.fconn.readBuf = s.host.got.flatten ∧
      (receivedIn s.log).Sublist (FrameConn.framesIn none taken) ∧
      ∀ future, ¬ FrameConn.LosesFrame (s.host.got.flatten ++ future) →
        receivedIn s.log = FrameConn.framesIn none taken := by
  obtain ⟨events, log, reads⟩ := (run_heard ran).reads
  have wholeLog : s.log = events := log
  have starts : (State.start .fresh host).Following [] := by
    refine ⟨⟨Nat.zero_le _, ?_, fun _ => ⟨rfl, .inl ?_⟩⟩, ?_⟩
    · intro started
      cases started
    · exact List.not_mem_nil
    · change [] = host.got.flatten
      rw [unread, List.flatten_nil]
  obtain ⟨taken, new, ⟨-, stream⟩, frames, some, all⟩ := reads [] starts
  rw [FrameConn.framesIn_nil, List.nil_append] at frames
  rw [← frames, ← wholeLog] at some
  rw [← frames, ← wholeLog] at all
  exact ⟨taken, stream, some, all⟩

/-- **A connection acts on frames of the stream, in their order.** Over a whole run, whatever it
writes and user code does in between, and however `read` cuts the stream or fails: the frames that
were read are among the frames of the bytes that the socket delivered. On a stream that loses no
frame they are all the frames of the bytes in front of those that are still in the read buffer. -/
theorem run_hears {env : Env} {calls : List Call} {host : Host} {s : State}
    (ran : run env calls (State.start .fresh host) = some s) (unread : host.got = []) :
    (receivedIn s.log).Sublist (FrameConn.framesIn none s.host.got.flatten) ∧
      (¬ FrameConn.LosesFrame s.host.got.flatten →
        ∃ taken, taken ++ s.conn.fconn.readBuf = s.host.got.flatten ∧
          receivedIn s.log = FrameConn.framesIn none taken) := by
  obtain ⟨taken, stream, some, all⟩ := run_takes ran unread
  constructor
  · rw [← stream, FrameConn.framesIn_append]
    exact some.trans (List.sublist_append_left _ _)
  · intro kept
    rw [← List.append_nil s.host.got.flatten] at kept
    exact ⟨taken, stream, all [] kept⟩

/-- An ACK and a data frame, and the first byte of another frame, in three pieces. -/
theorem run_hears_two :
    ∃ s, run Env.idle [.process ⟨0, 0⟩ true false, .process ⟨0, 0⟩ true true]
        (.start .fresh (.listing (Host.chunked [
          [0x3e, 1, 0], [0, 0, 0, 0, 1, 0x3c, 0x3e, 0xc, 0, 0, 0, 0, 0, 0xc, 0x3c], [0x3e]])
          [.wrote 100])) = some s ∧
      (receivedIn s.log).length = 2 ∧
      (receivedIn s.log).Sublist (FrameConn.framesIn none s.host.got.flatten) := by
  obtain ⟨s, ran, shown⟩ := (Option.any_eq_true _ _).mp (show (run Env.idle
    [.process ⟨0, 0⟩ true false, .process ⟨0, 0⟩ true true] (.start .fresh (.listing (Host.chunked [
      [0x3e, 1, 0], [0, 0, 0, 0, 1, 0x3c, 0x3e, 0xc, 0, 0, 0, 0, 0, 0xc, 0x3c], [0x3e]])
      [.wrote 100]))).any (fun s => decide ((receivedIn s.log).length = 2)) = true by decide +kernel)
  exact ⟨s, ran, of_decide_eq_true shown, (run_hears ran rfl).1⟩

end Libmdr
