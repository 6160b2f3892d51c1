import Libmdr.PacketConn.Hearing
import Mathlib.Data.List.ReduceOption

/-!
# What a connection makes of a data frame

Each data frame that is read is acknowledged, whether or not it can be decoded, and decoded at most
once. Nothing else writes an ACK or acts on a packet. So over a whole run the ACKs are those of the
data frames, one for each and in their order, and the packets are what those frames are decoded
to, with the frames left out that are no packet.
-/

namespace Libmdr
set_option autoImplicit false

/-- The data frames that were read. -/
def dataIn (events : List Event) : List Frame :=
  (receivedIn events).filter fun frame => frame.dataType = frameDataTypeDataMdr

/-- The ACKs that were handed to `mdr_frameconn_write_frame`. -/
def acksIn (events : List Event) : List Frame :=
  events.filterMap fun
    | .wroteAck frame _ => some frame
    | _ => none

theorem dataIn_append (xs ys : List Event) : dataIn (xs ++ ys) = dataIn xs ++ dataIn ys := by
  rw [dataIn, receivedIn_append, List.filter_append]
  rfl

theorem acksIn_append (xs ys : List Event) : acksIn (xs ++ ys) = acksIn xs ++ acksIn ys :=
  List.filterMap_append

/-- What `mdr_packet_from_frame` gave for the frame. -/
def Frame.ReadAs (env : Env) (frame : Frame) (packet : Option Packet) : Prop :=
  ∃ h h', Packet.fromFrame env.heap frame h = some (packet, h')

/-- The ACKs and the packets are those of the data frames. -/
structure Digested (env : Env) (events : List Event) : Prop where
  acks : acksIn events = (dataIn events).map ackFrame
  packets : ∃ read : List (Option Packet),
    List.Forall₂ (Frame.ReadAs env) (dataIn events) read ∧ parsedIn events = read.reduceOption

namespace Digested

variable {env : Env}

theorem append {xs ys : List Event} (front : Digested env xs) (back : Digested env ys) :
    Digested env (xs ++ ys) where
  acks := by rw [acksIn_append, dataIn_append, front.acks, back.acks, List.map_append]
  packets := by
    obtain ⟨read, each, packets⟩ := front.packets
    obtain ⟨more, each', packets'⟩ := back.packets
    refine ⟨read ++ more, ?_, ?_⟩
    · rw [dataIn_append]
      exact List.rel_append each each'
    · rw [parsedIn_append, packets, packets']
      exact List.filterMap_append.symm

/-- Events that are not about data frames. -/
theorem of_other {events : List Event} (noData : dataIn events = []) (noAck : acksIn events = [])
    (noPacket : parsedIn events = []) : Digested env events where
  acks := by rw [noAck, noData, List.map_nil]
  packets := ⟨[], by rw [noData]; exact .nil, noPacket⟩

/-- One data frame that is read, its ACK and its packet. -/
theorem of_data {frame : Frame} {packet : Option Packet} (head : Option Request) (now : Timespec)
    (written : Int) (isData : frame.dataType = frameDataTypeDataMdr)
    (read : frame.ReadAs env packet) :
    Digested env (.received frame head now :: .wroteAck (ackFrame frame) written ::
      (packet.map (Event.parsed · head)).toList) where
  acks := by cases packet <;> simp [acksIn, dataIn, receivedIn, isData]
  packets := by
    refine ⟨[packet], ?_, ?_⟩
    · have only : dataIn (.received frame head now :: .wroteAck (ackFrame frame) written ::
          (packet.map (Event.parsed · head)).toList) = [frame] := by
        cases packet <;> simp [dataIn, receivedIn, isData]
      rw [only]
      exact .cons read .nil
    · cases packet <;> rfl

/-- A packet that was acted on is what a data frame was read as. -/
theorem decoded {events : List Event} (digested : Digested env events) {packet : Packet}
    (isParsed : packet ∈ parsedIn events) :
    ∃ frame ∈ dataIn events, frame.ReadAs env (some packet) := by
  obtain ⟨read, each, parsed⟩ := digested.packets
  rw [parsed, List.reduceOption_mem_iff] at isParsed
  generalize dataIn events = frames at each
  clear parsed
  induction each with
  | nil => cases isParsed
  | @cons frame result frames read isRead _ ih =>
    rcases List.mem_cons.mp isParsed with rfl | isLater
    · exact ⟨frame, List.mem_cons_self, isRead⟩
    · obtain ⟨frame, isIn, isRead⟩ := ih isLater
      exact ⟨frame, List.mem_cons_of_mem _ isIn, isRead⟩

end Digested

/-- What was made of the data frames from one state to another. -/
def State.Digests (env : Env) (s t : State) : Prop :=
  ∃ events, t.log = s.log ++ events ∧ Digested env events

section Digests

variable {env : Env} {now : Timespec} {s t u : State} {result : Int}

theorem State.Digests.trans (front : s.Digests env t) (back : t.Digests env u) :
    s.Digests env u := by
  obtain ⟨xs, log, early⟩ := front
  obtain ⟨ys, log', late⟩ := back
  exact ⟨xs ++ ys, by rw [log', log, List.append_assoc], early.append late⟩

theorem State.Digests.of_log (log : t.log = s.log) : s.Digests env t :=
  ⟨[], by rw [log, List.append_nil], .of_other rfl rfl rfl⟩

/-- Without the socket there are no data frames. -/
theorem quietWalk_digests (env : Env) :
    QuietWalk env (fun _ _ => True) (State.Digests env) where
  refl := fun _ => .of_log rfl
  trans := .trans
  user := fun _ run => by
    obtain ⟨new, added⟩ := userCall_added run
    refine ⟨_, added.log, .of_other ?_ ?_ ?_⟩
    · rw [dataIn, receivedIn_accepted]
      rfl
    all_goals
      refine (List.filterMap_map ..).trans (List.filterMap_eq_nil_iff.mpr ?_)
      exact fun _ _ => rfl
  record := fun s event plain =>
    ⟨[event], rfl, by cases event <;> first | exact .of_other rfl rfl rfl | cases plain⟩
  notify := fun _ _ _ => ⟨[_], rfl, .of_other rfl rfl rfl⟩
  fields := fun _ _ _ log _ => .of_log log

theorem flushPart_digests {writable : Bool} (run : flushPart writable s = some (result, t)) :
    s.Digests env t := by
  obtain ⟨-, -, rfl⟩ | ⟨flushed, fconn, host, -, flush, rfl, -⟩ := flushPart_cases run
  · exact .of_log rfl
  · exact .of_log rfl

theorem sendPart_digests {writable : Bool}
    (run : sendPart env now writable s = some (result, t)) : s.Digests env t := by
  obtain ⟨head, rest, -, -, call⟩ | ⟨-, -, rfl | ⟨head, rest, -, -, -, -, given⟩⟩ :=
    sendPart_cases run
  · obtain ⟨written, fconn, host, wrote, -, rfl⟩ := transmit_cases call
    refine ⟨[.wrote head written now], ?_, .of_other rfl rfl rfl⟩
    split <;> rfl
  · exact .of_log rfl
  · exact (quietWalk_digests env).giveUp (fun _ _ _ => trivial) given

theorem receiveFrame_digests {frame : Frame}
    (run : receiveFrame env now frame s = some (result, t)) : s.Digests env t := by
  have noData (other : frame.dataType ≠ frameDataTypeDataMdr) :
      s.Digests env (s.record [.received frame s.conn.queue.requests.head? now]) :=
    ⟨_, rfl, .of_other (by simp [dataIn, receivedIn, other]) rfl rfl⟩
  unfold receiveFrame at run
  dsimp only at run
  split at run
  · rename_i isAck
    simp only [Option.bind_eq_bind, Option.bind_eq_some_iff] at run
    obtain ⟨u, acked, run⟩ := run
    cases run
    have other : frame.dataType ≠ frameDataTypeDataMdr := by
      rw [isAck]
      decide
    exact (noData other).trans ((quietWalk_digests env).receiveAck (fun _ _ _ => trivial) acked)
  · split at run
    · rename_i isData
      obtain ⟨written, fconn, host, packet, host', wrote, parsed, run⟩ := receiveData_cases run
      have read : frame.ReadAs env packet := ⟨host, host', parsed⟩
      have digested := Digested.of_data s.conn.queue.requests.head? now written isData read
      obtain ⟨rfl, -, rfl⟩ | ⟨packet, rfl, -, received⟩ := run
      · exact ⟨_, List.append_assoc .., digested⟩
      · have later := (quietWalk_digests env).receivePacket (fun _ _ _ => trivial) received
        obtain ⟨events, log, others⟩ := later
        refine ⟨_, ?_, digested.append others⟩
        rw [log]
        simp [State.afterRead]
    · rename_i other
      cases run
      exact noData other

theorem receivePart_digests (run : receivePart env now s = some (result, t)) :
    s.Digests env t := by
  unfold receivePart at run
  split at run
  · cases run
  · cases run
    exact .of_log rfl
  · obtain ⟨events, log, digested⟩ := receiveFrame_digests run
    exact ⟨events, log, digested⟩

theorem call_digests {c : Call} (run : call env s c = some t) : s.Digests env t := by
  cases c with
  | user c => exact (quietWalk_digests env).user trivial run
  | process now readable writable =>
    obtain ⟨⟨result, u⟩, processed, rfl⟩ := Option.map_eq_some_iff.mp run
    exact process_related (State.Digests env) (fun _ _ _ => .trans)
      (fun _ _ _ => flushPart_digests) (fun _ _ _ => sendPart_digests)
      (fun _ _ _ => receivePart_digests) processed

theorem run_digested {calls : List Call} {fconn : FrameConn} {host : Host}
    (ran : run env calls (State.start fconn host) = some s) : Digested env s.log := by
  obtain ⟨events, log, digested⟩ := Trace.foldlM_related (State.Digests env)
    (fun _ => .of_log rfl) (fun _ _ _ => .trans) (fun _ _ _ _ => call_digests) ran
  have whole : s.log = events := log
  rwa [whole]

/-- **For every data frame one ACK is handed over, and it is decoded once.** In a run with any calls
by user code, any socket and any bytes that arrive: the ACKs that were handed to
`mdr_frameconn_write_frame`, whatever it returned, are those of the data frames that were read, in
their order, for frames that are no packet as well. The packets that end a request or reach the
subscriptions are, in the same order, what `mdr_packet_from_frame` gave for these frames. -/
theorem run_digests {calls : List Call} {fconn : FrameConn} {host : Host}
    (ran : run env calls (State.start fconn host) = some s) :
    acksIn s.log = (dataIn s.log).map ackFrame ∧
      ∃ read : List (Option Packet), List.Forall₂ (Frame.ReadAs env) (dataIn s.log) read ∧
        parsedIn s.log = read.reduceOption :=
  ⟨(run_digested ran).acks, (run_digested ran).packets⟩

end Digests

/-- Two data frames, the second with no packet, and an ACK in between. -/
theorem run_digests_two :
    ∃ s, run Env.idle [.process ⟨0, 0⟩ true false, .process ⟨0, 0⟩ true true,
        .process ⟨0, 0⟩ true true] (.start .fresh (.listing (Host.chunked [
          [0x3e, 0x0c, 1, 0, 0, 0, 4, 1, 0, 1, 2, 0x15, 0x3c, 0x3e, 1, 0],
          [0, 0, 0, 0, 1, 0x3c, 0x3e, 0x0c, 0, 0, 0, 0, 0, 0x0c, 0x3c]])
          [.wrote 100, .wrote 100])) = some s ∧
      ((acksIn s.log).length = 2 ∧ (parsedIn s.log).length = 1) ∧
      acksIn s.log = (dataIn s.log).map ackFrame ∧
      ∃ read : List (Option Packet), List.Forall₂ (Frame.ReadAs Env.idle) (dataIn s.log) read ∧
        parsedIn s.log = read.reduceOption := by
  obtain ⟨s, ran, shown⟩ := (Option.any_eq_true _ _).mp (show (run Env.idle
    [.process ⟨0, 0⟩ true false, .process ⟨0, 0⟩ true true, .process ⟨0, 0⟩ true true]
    (.start .fresh (.listing (Host.chunked [
      [0x3e, 0x0c, 1, 0, 0, 0, 4, 1, 0, 1, 2, 0x15, 0x3c, 0x3e, 1, 0],
      [0, 0, 0, 0, 1, 0x3c, 0x3e, 0x0c, 0, 0, 0, 0, 0, 0x0c, 0x3c]])
      [.wrote 100, .wrote 100]))).any
    (fun s => decide ((acksIn s.log).length = 2 ∧ (parsedIn s.log).length = 1)) = true
    by decide +kernel)
  exact ⟨s, ran, of_decide_eq_true shown, run_digests ran⟩

end Libmdr
