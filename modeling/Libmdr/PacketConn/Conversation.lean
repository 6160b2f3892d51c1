import Libmdr.PacketConn.Delivery
import Libmdr.PacketConn.Digest

/-!
# Two connections

Two connections talk over a pair of byte streams: what one has got is the beginning of what the
other's socket has accepted, and each goes on in its own time. The frames that one end reads are
then those that the other end wrote whole, without gaps, in their order; its packets are those
that user code at the other end asked for; and its ACKs are answers to its own data frames. This
holds at every moment of every interleaving of the calls at the two ends.
-/

namespace Libmdr
set_option autoImplicit false

/-! ## Frames -/

/-- What one end reads is the beginning of what the other end wrote whole. -/
theorem receivedIn_isPrefix {env env' : Env} {calls calls' : List Call} {fconn : FrameConn}
    {host host' : Host} {s t : State}
    (ran : run env calls (State.start fconn host) = some s) (unsent : host.wire = [])
    (drained : s.conn.fconn.writeBuf = [])
    (ran' : run env' calls' (State.start .fresh host') = some t) (unread : host'.got = [])
    (carried : t.host.got.flatten <+: s.host.wire) :
    receivedIn t.log <+: FrameConn.writtenWhole (attemptsIn s.log) ∧
      (t.host.got.flatten = s.host.wire → t.conn.fconn.readBuf = [] →
        receivedIn t.log = FrameConn.writtenWhole (attemptsIn s.log)) := by
  obtain ⟨pieces, wire, gave, wellFormed⟩ := run_pieces ran unsent drained
  obtain ⟨found, kept⟩ := FrameConn.frames_of_attempts gave wellFormed
  rw [← wire] at found kept
  obtain ⟨taken, stream, -, all⟩ := run_takes ran' unread
  obtain ⟨future, ahead⟩ := carried
  rw [all future (by rwa [ahead]), ← found]
  constructor
  · rw [← ahead, ← stream, FrameConn.framesIn_append, FrameConn.framesIn_append, List.append_assoc]
    exact List.prefix_append _ _
  · intro arrived empty
    rw [← arrived, ← stream, empty, List.append_nil]

/-! ## Packets -/

/-- A connection with memory acts on the packets that its data frames are decoded to. -/
theorem Digested.parsedIn_eq {env : Env} {events : List Event} {packets : List Packet}
    (digested : Digested env events) (never : env.heap.NeverFails)
    (decodes : List.Forall₂ Frame.DecodesTo (dataIn events) packets) :
    parsedIn events = packets := by
  obtain ⟨read, each, parsed⟩ := digested.packets
  rw [parsed]
  generalize dataIn events = frames at each decodes
  clear parsed
  induction each generalizing packets with
  | nil =>
    cases decodes
    rfl
  | cons first _ ih =>
    cases decodes with
    | cons decoded later =>
      obtain ⟨h, h', ran⟩ := first
      obtain ⟨h'', again⟩ := decoded env.heap h never
      obtain ⟨rfl, -⟩ := Prod.mk.inj (Option.some.inj (ran.symm.trans again))
      exact congrArg (List.cons _) (ih later)

/-- **Packets arrive at the other end as they were asked for.** One end of a conversation asks for
packets that the format does not spoil; nothing is left in its write buffer. The other end is a new
connection with memory for what it decodes. At every moment of the conversation the packets that it
has acted on are the first of those asked for, in the order in which the requests were accepted,
each once for every write that returned 0 and no more than three times. When all bytes have arrived
and none is left in the read buffer they are all of them. -/
theorem conversation_packets {env env' : Env} {calls calls' : List Call} {fconn : FrameConn}
    {host host' : Host} {s t : State}
    (ran : run env calls (State.start fconn host) = some s) (unsent : host.wire = [])
    (drained : s.conn.fconn.writeBuf = [])
    (lossless : ∀ packet spec callbacks, Asked env calls (.makeRequest packet spec callbacks) →
      packet.WellFormed ∧ packet.Lossless)
    (ran' : run env' calls' (State.start .fresh host') = some t) (unread : host'.got = [])
    (never : env'.heap.NeverFails) (carried : t.host.got.flatten <+: s.host.wire) :
    ∃ sent : List (Packet × Nat),
      List.Forall₂ (Delivered env calls s.log) (acceptedIn s.log) sent ∧
      parsedIn t.log <+: (sent.flatMap fun x => List.replicate x.2 x.1) ∧
      (t.host.got.flatten = s.host.wire → t.conn.fconn.readBuf = [] →
        parsedIn t.log = sent.flatMap fun x => List.replicate x.2 x.1) := by
  obtain ⟨pieces, wire, gave, -⟩ := run_pieces ran unsent drained
  obtain ⟨sent, delivered, decodes⟩ := run_decodes ran (FrameConn.results_of_gave gave) lossless
  obtain ⟨some, all⟩ := receivedIn_isPrefix ran unsent drained ran' unread carried
  have digested := run_digested ran'
  refine ⟨sent, delivered, ?_, ?_⟩
  · have read : dataIn t.log <+: _ :=
      some.filter fun frame : Frame => frame.dataType = frameDataTypeDataMdr
    rw [List.prefix_iff_eq_take] at read
    have early := List.forall₂_take (dataIn t.log).length decodes
    rw [← read] at early
    rw [digested.parsedIn_eq never early]
    exact List.take_prefix _ _
  · intro arrived empty
    have read : dataIn t.log = _ := congrArg
      (List.filter fun frame : Frame => frame.dataType = frameDataTypeDataMdr) (all arrived empty)
    rw [← read] at decodes
    exact digested.parsedIn_eq never decodes

/-- One request, of which seven bytes arrive first. -/
theorem conversation_packets_power_off :
    ∃ s t, run Env.idle [.user powerOff, .process ⟨0, 0⟩ false true]
        (State.start .fresh (.listing [] [.wrote 5, .wrote 100])) = some s ∧
      run Env.idle [.process ⟨0, 0⟩ true false, .process ⟨1, 0⟩ true false] (State.start .fresh
        (.listing (Host.chunked [s.host.wire.take 7, s.host.wire.drop 7]) [.wrote 100])) = some t ∧
      (parsedIn t.log).length = 1 ∧
      ∃ sent : List (Packet × Nat),
        List.Forall₂ (Delivered Env.idle [.user powerOff, .process ⟨0, 0⟩ false true] s.log)
          (acceptedIn s.log) sent ∧
        parsedIn t.log <+: (sent.flatMap fun x => List.replicate x.2 x.1) ∧
        (t.host.got.flatten = s.host.wire → t.conn.fconn.readBuf = [] →
          parsedIn t.log = sent.flatMap fun x => List.replicate x.2 x.1) := by
  obtain ⟨s, ran, shown⟩ := (Option.any_eq_true _ _).mp (show (run Env.idle
    [.user powerOff, .process ⟨0, 0⟩ false true]
    (State.start .fresh (.listing [] [.wrote 5, .wrote 100]))).any
    (fun s => (run Env.idle [.process ⟨0, 0⟩ true false, .process ⟨1, 0⟩ true false]
        (State.start .fresh (.listing (Host.chunked [s.host.wire.take 7, s.host.wire.drop 7])
          [.wrote 100]))).any
      fun t => decide (s.conn.fconn.writeBuf = [] ∧ (parsedIn t.log).length = 1 ∧
        t.host.got.flatten <+: s.host.wire)) = true by decide +kernel)
  obtain ⟨t, ran', shown⟩ := (Option.any_eq_true _ _).mp shown
  obtain ⟨drained, one, carried⟩ := of_decide_eq_true shown
  refine ⟨s, t, ran, ran', one,
    conversation_packets ran rfl drained ?_ ran' rfl (fun _ => rfl) carried⟩
  rintro packet spec callbacks (isIn | ⟨k, isIn⟩)
  · have only : packet = .commonSetPowerOff ⟨.fixedValue, .userPowerOff⟩ := by
      simp [powerOff] at isIn
      exact isIn.1
    rw [only]
    exact ⟨⟨trivial, trivial⟩, trivial, by decide, id, id⟩
  · cases isIn

/-! ## ACKs -/

/-- Only `.wroteAck` is about an ACK. -/
theorem writtenWhole_acks {events : List Event}
    (isData : ∀ request ∈ writtenIn true events, request.frame.dataType = frameDataTypeDataMdr) :
    ((FrameConn.writtenWhole (attemptsIn events)).filter
      fun frame => frame.dataType = frameDataTypeAck).Sublist (acksIn events) := by
  induction events with
  | nil => exact .slnil
  | cons event rest ih =>
    have attempts : attemptsIn (event :: rest) = attemptsIn [event] ++ attemptsIn rest :=
      attemptsIn_append [event] rest
    have acks : acksIn (event :: rest) = acksIn [event] ++ acksIn rest := acksIn_append [event] rest
    rw [writtenIn_cons] at isData
    rw [attempts, acks, FrameConn.writtenWhole, List.filterMap_append, List.filter_append]
    refine .append ?_ (ih fun request isIn => isData request (List.mem_append_right _ isIn))
    cases event with
    | wrote request result now =>
      by_cases whole : result = 0
      · have data := isData request (List.mem_append_left _
          (List.mem_filterMap.mpr ⟨_, List.mem_cons_self, if_pos (.inr rfl)⟩))
        simp [attemptsIn, Event.attempt, whole, data, frameDataTypeAck, frameDataTypeDataMdr]
      · simp [attemptsIn, Event.attempt, whole]
    | wroteAck frame result =>
      by_cases whole : result = 0
      · simp only [attemptsIn, Event.attempt, whole]
        exact List.filter_sublist
      · simp [attemptsIn, Event.attempt, whole]
    | _ => exact .slnil

/-- **ACKs are answers.** Two new connections talk to each other, and nothing is left in the write
buffer of either. At every such moment the ACKs that one end has read answer data frames that it
wrote whole itself, in the order in which it wrote them, and each of these is answered at most
once. -/
theorem conversation_acks {env env' : Env} {calls calls' : List Call} {host host' : Host}
    {s t : State}
    (ran : run env calls (State.start .fresh host) = some s) (unsent : host.wire = [])
    (unread : host.got = []) (drained : s.conn.fconn.writeBuf = [])
    (ran' : run env' calls' (State.start .fresh host') = some t) (unsent' : host'.wire = [])
    (unread' : host'.got = []) (drained' : t.conn.fconn.writeBuf = [])
    (carried : t.host.got.flatten <+: s.host.wire) (carried' : s.host.got.flatten <+: t.host.wire) :
    ((receivedIn s.log).filter fun frame => frame.dataType = frameDataTypeAck).Sublist
      (((FrameConn.writtenWhole (attemptsIn s.log)).filter
        fun frame => frame.dataType = frameDataTypeDataMdr).map ackFrame) := by
  have there := (receivedIn_isPrefix ran unsent drained ran' unread' carried).1
  have back := (receivedIn_isPrefix ran' unsent' drained' ran unread carried').1
  have written := (back.sublist.filter fun frame => frame.dataType = frameDataTypeAck).trans
    (writtenWhole_acks (run_isData ran'))
  rw [(run_digested ran').acks] at written
  exact written.trans ((there.sublist.filter _).map ackFrame)

/-- A request, and the ACK that comes back. -/
theorem conversation_acks_power_off :
    ∃ s t, run Env.idle [.user powerOff, .process ⟨0, 0⟩ false true, .process ⟨1, 0⟩ true false]
        (State.start .fresh (.listing (Host.chunked [[0x3e, 1, 1, 0, 0], [0, 0, 2, 0x3c]])
          [.wrote 5, .wrote 100])) = some s ∧
      run Env.idle [.process ⟨0, 0⟩ true false] (State.start .fresh
        (.listing (Host.chunked [s.host.wire]) [.wrote 100])) = some t ∧
      (receivedIn s.log).length = 1 ∧
      ((receivedIn s.log).filter fun frame => frame.dataType = frameDataTypeAck).Sublist
        (((FrameConn.writtenWhole (attemptsIn s.log)).filter
          fun frame => frame.dataType = frameDataTypeDataMdr).map ackFrame) := by
  obtain ⟨s, ran, shown⟩ := (Option.any_eq_true _ _).mp (show (run Env.idle
    [.user powerOff, .process ⟨0, 0⟩ false true, .process ⟨1, 0⟩ true false]
    (State.start .fresh (.listing (Host.chunked [[0x3e, 1, 1, 0, 0], [0, 0, 2, 0x3c]])
      [.wrote 5, .wrote 100]))).any
    (fun s => (run Env.idle [.process ⟨0, 0⟩ true false] (State.start .fresh
        (.listing (Host.chunked [s.host.wire]) [.wrote 100]))).any
      fun t => decide ((s.conn.fconn.writeBuf = [] ∧ t.conn.fconn.writeBuf = []) ∧
        (receivedIn s.log).length = 1 ∧ t.host.got.flatten <+: s.host.wire ∧
        s.host.got.flatten <+: t.host.wire)) = true by decide +kernel)
  obtain ⟨t, ran', shown⟩ := (Option.any_eq_true _ _).mp shown
  obtain ⟨⟨drained, drained'⟩, one, carried, carried'⟩ := of_decide_eq_true shown
  exact ⟨s, t, ran, ran', one,
    conversation_acks ran rfl rfl drained ran' rfl rfl drained' carried carried'⟩

end Libmdr
