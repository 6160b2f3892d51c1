import Libmdr.FrameConn.Checksum
import Libmdr.PacketConn.SocketCalls
import Libmdr.Packet.Encoding

/-!
# The first attempt

`mdr_frameconn_write_frame` refuses a frame that is longer than the room in the write
buffer, also when the buffer is empty and the socket would take all of the frame. A request
with such a frame stays the first one: it is never sent, so it never times out.
-/

namespace Libmdr
set_option autoImplicit false

namespace FrameConn

/-! ## The length of an escaped frame -/

theorem length_escapeByte (b : UInt8) :
    1 ≤ (escapeByte b).length ∧ (escapeByte b).length ≤ 2 := by
  unfold escapeByte
  split
  · exact ⟨Nat.le_succ 1, Nat.le_refl 2⟩
  · exact ⟨Nat.le_refl 1, Nat.le_succ 1⟩

theorem length_flatMap_escapeByte (bytes : List UInt8) :
    bytes.length ≤ (bytes.flatMap escapeByte).length ∧
      (bytes.flatMap escapeByte).length ≤ 2 * bytes.length := by
  induction bytes with
  | nil => exact ⟨Nat.le_refl 0, Nat.le_refl 0⟩
  | cons b rest ih =>
    have one := length_escapeByte b
    rw [List.flatMap_cons, List.length_append, List.length_cons]
    omega

/-- On the wire a frame has two delimiters, and between them once to twice its length. -/
theorem length_escaped {frame : Frame} (wf : frame.WellFormed) :
    frame.payloadLength.toNat + 9 ≤ (escaped frame).length ∧
      (escaped frame).length ≤ 2 * frame.payloadLength.toNat + 16 := by
  have bytes := length_flatMap_escapeByte (frame.bytes.take frame.frameLen)
  rw [← Frame.bytes_length_of_wellFormed wf, List.take_length, Frame.bytes_length, wf.body] at bytes
  rw [escaped, ← Frame.bytes_length_of_wellFormed wf, List.take_length, List.length_append,
    List.length_cons, List.length_singleton]
  omega

/-! ## A frame in one `write` -/

/-- A socket that takes all it is offered takes the frame at once. -/
theorem writeFrame_at_once {heap : Heap} {c : FrameConn} {h : Host} {frame : Frame}
    {n : Nat} {more : List WriteOutcome} (flushed : c.writeBuf = [])
    (accepts : h.writes = .wrote n :: more) (all : (escaped frame).length ≤ n)
    (tried : Tried heap c h frame) :
    ∃ h', c.writeFrame heap h frame = some (0, c, h') ∧ h'.wire = h.wire ++ escaped frame := by
  have outcomes : frameOutcomes c h.writes = some (.wrote n :: more) := by
    rw [frameOutcomes, if_pos flushed, accepts]
  have long : 0 < (escaped frame).length := List.length_pos_iff.mpr (escaped_ne_nil frame)
  have covers : Host.endsWithin (escaped frame).length (.wrote n :: more) = true := by
    obtain ⟨m, isSucc⟩ := Nat.exists_eq_add_of_lt long
    rw [isSucc, Nat.zero_add, Host.endsWithin, Nat.sub_eq_zero_of_le (by omega), Host.endsWithin]
  obtain ⟨result, c', h', flushed', h₁, h₂, run, flush, wire, writes, loop⟩ :=
    writeFrame_of_tried tried outcomes covers
  rw [flushWrite_empty flushed] at flush
  cases flush
  have once : h₂.write (escaped frame) = some (.ok (escaped frame).length,
      { h₂ with writes := more, wire := h₂.wire ++ escaped frame }) := by
    rw [Host.write, writes]
    dsimp only
    rw [Nat.min_eq_right all, List.take_of_length_le all]
  rw [writeFrameLoop, if_pos long] at loop
  split at loop <;> rename_i wrote <;> rw [List.drop_zero, once] at wrote <;> cases wrote
  rw [writeFrameLoop, if_neg (by omega)] at loop
  cases loop
  exact ⟨_, run, by rw [wire]⟩

end FrameConn

/-! ## The request -/

/-- A request is the first one and was never sent, nothing is pending, and the socket takes
all that it is offered. -/
structure FirstDue (s : State) (head : Request) (rest : List Request) : Prop where
  first : s.conn.queue.requests = head :: rest
  unsent : head.attempts = 0
  flushed : s.conn.fconn.writeBuf = []
  accepts : ∃ n more, s.host.writes = .wrote n :: more ∧ (FrameConn.escaped head.frame).length ≤ n

/-- One call that may write transmits the frame of the first request and counts the attempt. -/
def SendsFirst (env : Env) (now : Timespec) (s : State) (head : Request) (rest : List Request) :
    Prop :=
  ∃ t sent, process env now false true s = some (0, t) ∧
    t.host.wire = s.host.wire ++ FrameConn.escaped head.frame ∧
    t.conn.queue.requests = sent :: rest ∧ sent.handle = head.handle ∧ sent.attempts = 1

section First

variable {env : Env} {now : Timespec} {s : State} {head : Request} {rest : List Request}

theorem FirstDue.process_eq (due : FirstDue s head rest) :
    process env now false true s = (transmit env now head s).map fun (sent, t) =>
      (if sent < 0 then -1 else 0, t) := by
  have flush : flushPart true s = some (0, s) := by
    simp only [flushPart, if_true, FrameConn.flushWrite_empty due.flushed, Option.bind_eq_bind,
      Option.bind_some]
    rfl
  have send : sendPart env now true s = transmit env now head s := by
    refine sendPart_of_due due.first ?_
    rw [WriteDue, if_pos due.unsent]
  simp only [process, flush, Option.bind_eq_bind, Option.bind_some, send, Int.lt_irrefl, if_false,
    Bool.false_eq_true]
  rcases transmit env now head s with _ | ⟨sent, t⟩
  · rfl
  · dsimp only [Option.bind_some, Option.map_some]
    split <;> rfl

/-- A frame that is not tried stays off the wire. -/
theorem FirstDue.not_sendsFirst (due : FirstDue s head rest)
    (untried : ¬ s.conn.fconn.Tried env.heap s.host head.frame) :
    ¬ SendsFirst env now s head rest := by
  rintro ⟨t, sent, run, wire, -⟩
  rw [due.process_eq, Option.map_eq_some_iff] at run
  obtain ⟨⟨sent', u⟩, transmitted, out⟩ := run
  obtain ⟨-, rfl⟩ := Prod.mk.inj out
  obtain ⟨written, wrote, -⟩ := transmit_host transmitted
  obtain ⟨flushed, h₁, flush, ⟨-, -, -, same⟩ | ⟨h₂, -, tried, -⟩⟩ :=
    FrameConn.writeFrame_cases wrote
  · rw [FrameConn.flushWrite_empty due.flushed] at flush
    cases flush
    rw [same] at wire
    exact FrameConn.escaped_ne_nil head.frame (List.append_right_eq_self.mp wire.symm)
  · exact untried tried

end First

/-- **The first request is sent when its frame can be escaped and fits in the write buffer.**
The buffer is empty, and the frame would not have to go through it. -/
theorem sendsFirst_iff {s : State} {head : Request} {rest : List Request}
    (due : FirstDue s head rest) (env : Env) (now : Timespec) :
    SendsFirst env now s head rest ↔
      (FrameConn.escapeFrame env.heap head.frame s.host).1.isSome ∧
        (FrameConn.escaped head.frame).length ≤ frameBufSize := by
  have isTried : s.conn.fconn.Tried env.heap s.host head.frame ↔
      (FrameConn.escapeFrame env.heap head.frame s.host).1.isSome ∧
        (FrameConn.escaped head.frame).length ≤ frameBufSize := by
    rw [FrameConn.Tried, due.flushed]
    rfl
  rw [← isTried]
  constructor
  · intro sends
    by_contra untried
    exact due.not_sendsFirst untried sends
  · intro tried
    obtain ⟨n, more, writes, all⟩ := due.accepts
    obtain ⟨h, wrote, wire⟩ := FrameConn.writeFrame_at_once due.flushed writes all tried
    refine ⟨((s.afterRead s.conn.fconn h).record [.wrote head 0 now]).setQueue
      (s.conn.queue.mapHead (Request.sent now)), head.sent now, ?_, wire, ?_, rfl, ?_⟩
    · rw [due.process_eq]
      simp only [transmit, wrote, Option.bind_eq_bind, Option.bind_some, Int.lt_irrefl, if_false]
      rfl
    · rw [State.setQueue_queue, RequestQueue.mapHead, due.first]
    · rw [Request.sent, due.unsent]

/-- The request to switch off is sent. -/
theorem sendsFirst_iff_power_off :
    ∃ s head, run Env.idle [.user powerOff] (.start .fresh (.listing [] [.wrote 100])) = some s ∧
      (SendsFirst Env.idle ⟨0, 0⟩ s head [] ↔
        (FrameConn.escapeFrame Env.idle.heap head.frame s.host).1.isSome ∧
          (FrameConn.escaped head.frame).length ≤ frameBufSize) := by
  obtain ⟨s, ran, due⟩ := (Option.any_eq_true _ _).mp (show (run Env.idle [.user powerOff]
    (.start .fresh (.listing [] [.wrote 100]))).any (fun s =>
      s.conn.fconn.writeBuf = [] && s.host.writes = [.wrote 100] &&
        s.conn.queue.requests.map (fun head => (head.attempts, (FrameConn.escaped head.frame).length))
          = [(0, 12)]) = true by decide +kernel)
  simp only [Bool.and_eq_true, decide_eq_true_eq] at due
  obtain ⟨⟨flushed, writes⟩, requests⟩ := due
  obtain ⟨head, first, facts⟩ := List.map_eq_singleton_iff.mp requests
  obtain ⟨unsent, length⟩ := Prod.mk.inj facts
  refine ⟨s, head, ran, sendsFirst_iff ⟨first, unsent, flushed, 100, [], writes, ?_⟩ _ _⟩
  rw [length]
  decide

/-- An equalizer with 33 presets, each with a name of 255 bytes. -/
def wideEqualizer : Packet :=
  .eqebbRetCapability (.presetEq
    { bandCount := 5, levelSteps := 20, numPresets := 33
      presets := List.replicate 33
        { presetId := .off, nameLen := 255, name := List.replicate 255 0x41 } })

theorem countsMatch_wideEqualizer : wideEqualizer.CountsMatch := by
  refine ⟨List.length_replicate, ?_⟩
  intro preset isIn
  rw [List.eq_of_mem_replicate isIn]
  exact List.length_replicate

/-- The bytes of an equalizer's capability, behind the type byte. -/
theorem length_writeEqebbCapabilityEq {inquiredType : UInt8} {eq : EqebbCapabilityEq}
    {layouts : List Layout} {layout : Layout} (counts : eq.CountsMatch)
    (written : writeEqebbCapabilityEq inquiredType eq = some layouts) (isIn : layout ∈ layouts) :
    layout.bytes.length = 4 + (eq.presets.map fun preset => 2 + preset.nameLen.toNat).sum := by
  have filled := ((writeEqebbCapabilityEq_fills inquiredType eq layouts written).2 layout isIn).1
  rw [writeEqebbCapabilityEq, counted_of_length counts.1] at written
  obtain ⟨presets, isWhole, written⟩ := Option.bind_eq_some_iff.mp written
  cases isWhole
  obtain ⟨names, -, isMade⟩ := Option.bind_eq_some_iff.mp written
  cases isMade
  cases List.mem_singleton.mp isIn
  exact filled

theorem length_wideEqualizer {written : List UInt8}
    (isWritten : wideEqualizer.written = some written) : written.length = 8486 := by
  simp only [Packet.written, Option.bind_eq_bind, Option.bind_eq_some_iff] at isWritten
  obtain ⟨layouts, isLayouts, layout, last, out⟩ := isWritten
  cases out
  rw [List.length_cons, length_writeEqebbCapabilityEq countsMatch_wideEqualizer isLayouts
    (List.mem_of_getLast? last), List.map_replicate, List.sum_replicate]
  rfl

/-- A request that is accepted when none is pending becomes the first one. -/
theorem makeRequest_first (env : Env) {packet : Packet} {frame : Frame} {s : State} {h : Host}
    (spec : ReplySpecifier) (callbacks : Callbacks) (never : env.heap.NeverFails)
    (encoded : packet.toFrame env.heap s.host = some (some frame, h))
    (none : s.conn.queue.requests = []) :
    ∃ t head, makeRequest env packet spec callbacks s = some (some s.nextHandle, t) ∧
      t.conn.queue.requests = [head] ∧ head.attempts = 0 ∧
      head.frame = { frame with sequenceId := s.conn.queue.nextSequenceId }.setChecksum ∧
      t.conn.fconn = s.conn.fconn ∧ t.host.writes = s.host.writes := by
  have block := never.malloc h
  rcases allocated : h.malloc env.heap with ⟨_ | junk, h'⟩
  · rw [allocated] at block
    cases block
  have returns : (makeRequest env packet spec callbacks s).isSome := by
    simp only [makeRequest, encoded, allocated, Option.bind_eq_bind, Option.bind_some]
    rfl
  obtain ⟨⟨handle, t⟩, made⟩ := Option.isSome_iff_exists.mp returns
  have writes := makeRequest_hidden (Host.hidden_withWrites s.host.writes) env packet spec callbacks s
  rw [show s.mapHost (Host.withWrites s.host.writes) = s from rfl, made] at writes
  have kept : t.host.writes = s.host.writes :=
    congrArg (fun out => out.2.host.writes) (Option.some.inj writes)
  have whole := made
  simp only [makeRequest, encoded, allocated, Option.bind_eq_bind, Option.bind_some] at whole
  cases whole
  refine ⟨_, Request.assign ⟨s.nextHandle, frame, env.stale h'.mallocs, 0, false, callbacks, spec⟩
    s.conn.queue.nextSequenceId, made, ?_, rfl, rfl, rfl, kept⟩
  rw [State.relink_queue, State.setQueue_queue, RequestQueue.enqueue, if_pos none]

/-- The equalizer's capability is accepted as a request and cannot be sent: its frame is longer
than the write buffer. -/
theorem not_sendsFirst_wide_equalizer :
    ∃ s head, run Env.idle [.user (.makeRequest wideEqualizer
          { onlyAck := true, packetType := .connectGetProtocolInfo, extra := 0 }
          { result := some 0, error := some 1, userData := 0 })]
        (.start .fresh (.listing [] [.wrote 100000])) = some s ∧
      FirstDue s head [] ∧ ¬ SendsFirst Env.idle ⟨0, 0⟩ s head [] := by
  obtain ⟨made, h, written, encoded, isWritten, isMade, spec⟩ := Packet.toFrame_spec
    Env.idle.heap (.listing [] [.wrote 100000]) (Packet.layouts_isSome countsMatch_wideEqualizer)
  obtain ⟨frame, rfl⟩ := Option.isSome_iff_exists.mp (isMade fun _ => rfl)
  have makes := spec frame rfl
  obtain ⟨s, head, accepted, first, unsent, isFrame, fconn, writes⟩ := makeRequest_first
    Env.idle (s := .start .fresh (.listing [] [.wrote 100000]))
    { onlyAck := true, packetType := .connectGetProtocolInfo, extra := 0 }
    { result := some 0, error := some 1, userData := 0 } (fun _ => rfl) encoded rfl
  have payload : head.frame.payloadLength.toNat = 8486 := by
    rw [isFrame, Frame.setChecksum_payloadLength, makes.payloadLength,
      length_wideEqualizer isWritten]
    rfl
  have wf : head.frame.WellFormed := by
    rw [isFrame]
    refine Frame.WellFormed.setChecksum ⟨makes.body, ?_⟩
    have small := makes.small
    dsimp only
    omega
  have long := FrameConn.length_escaped wf
  rw [payload] at long
  have due : FirstDue s head [] :=
    ⟨first, unsent, by rw [fconn]; rfl, 100000, [], writes, by omega⟩
  refine ⟨s, head, ?_, due, due.not_sendsFirst fun tried => ?_⟩
  · simp only [run, List.foldlM_cons, List.foldlM_nil, call, userCall, accepted]
    rfl
  · have fits := tried.2
    rw [due.flushed, List.length_nil] at fits
    exact absurd fits (by unfold frameBufSize; omega)

end Libmdr
