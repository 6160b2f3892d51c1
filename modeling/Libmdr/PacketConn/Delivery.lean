import Libmdr.Lib.Groups
import Libmdr.Packet.Lossless
import Libmdr.PacketConn.InTurn
import Libmdr.PacketConn.Wire

/-!
# Packets from end to end

What user code asks for is encoded, queued, sealed, escaped, written in pieces and written again;
a peer de-frames, un-escapes and decodes. In a run whose write buffer stays empty the peer decodes
the packets that were asked for, in the order in which the requests were accepted, each no more
than three times and all copies of one next to each other.
-/

namespace Libmdr
set_option autoImplicit false

/-! ## What user code asked for -/

/-- The calls that user code makes in a run: from outside, or in a callback. -/
def Asked (env : Env) (calls : List Call) (c : UserCall) : Prop :=
  .user c ∈ calls ∨ ∃ k, c ∈ env.script k

/-- The request was made for a packet that user code asked for. -/
structure Request.MadeFor (request : Request) (env : Env) (asked : UserCall → Prop)
    (packet : Packet) : Prop where
  asked : asked (.makeRequest packet request.expectedReply request.callbacks)
  encoded : ∃ h h', packet.toFrame env.heap h = some (some request.frame, h')

/-- The requests accepted from one state to another were made for packets that user code asked
for. -/
def State.Requests (env : Env) (asked : Nat → UserCall → Prop) (s t : State) : Prop :=
  s.calls ≤ t.calls ∧ ∃ events, t.log = s.log ++ events ∧
    ∀ request ∈ acceptedIn events, ∃ k ≤ t.calls, ∃ packet, request.MadeFor env (asked k) packet

section Requests

variable {env : Env} {asked : Nat → UserCall → Prop} {s t u : State}

theorem State.Requests.of_none {events : List Event} (calls : s.calls ≤ t.calls)
    (log : t.log = s.log ++ events) (none : acceptedIn events = []) :
    State.Requests env asked s t := by
  refine ⟨calls, events, log, ?_⟩
  rw [none]
  exact fun _ isIn => by cases isIn

theorem State.Requests.of_log (calls : s.calls ≤ t.calls) (log : t.log = s.log) :
    State.Requests env asked s t :=
  .of_none calls (by rw [log, List.append_nil]) rfl

theorem State.Requests.trans (front : State.Requests env asked s t)
    (back : State.Requests env asked t u) : State.Requests env asked s u := by
  obtain ⟨calls, xs, log, early⟩ := front
  obtain ⟨calls', ys, log', late⟩ := back
  refine ⟨calls.trans calls', xs ++ ys, by rw [log', log, List.append_assoc], ?_⟩
  intro request isIn
  rw [acceptedIn_append] at isIn
  rcases List.mem_append.mp isIn with isEarly | isLate
  · obtain ⟨k, begun, made⟩ := early request isEarly
    exact ⟨k, begun.trans calls', made⟩
  · exact late request isLate

theorem makeRequest_requests {packet : Packet} {spec : ReplySpecifier} {callbacks : Callbacks}
    {handle : Option Handle} (isAsked : asked s.calls (.makeRequest packet spec callbacks))
    (run : makeRequest env packet spec callbacks s = some (handle, t)) :
    State.Requests env asked s t := by
  simp only [makeRequest, Option.bind_eq_bind, Option.bind_eq_some_iff] at run
  obtain ⟨⟨frame, host⟩, encoded, run⟩ := run
  cases frame with
  | none =>
    cases run
    exact .of_log (Nat.le_refl _) rfl
  | some frame =>
    dsimp only at run
    split at run
    · cases run
      exact .of_log (Nat.le_refl _) rfl
    · cases run
      refine ⟨Nat.le_refl _, [.accepted _], rfl, ?_⟩
      intro request isIn
      rw [List.mem_singleton.mp isIn]
      exact ⟨s.calls, Nat.le_refl _, packet, isAsked, _, _, encoded⟩

theorem userCall_requests {c : UserCall} (isAsked : asked s.calls c) (run : userCall env s c = some t) :
    State.Requests env asked s t := by
  cases c with
  | makeRequest packet spec callbacks =>
    obtain ⟨⟨handle, u⟩, made, rfl⟩ := Option.map_eq_some_iff.mp run
    exact makeRequest_requests isAsked made
  | subscribe spec result userData =>
    cases run
    unfold subscribe
    split <;> exact .of_log (Nat.le_refl _) rfl
  | removeSubscription handle =>
    cases run
    exact .of_log (Nat.le_refl _) rfl

theorem walk_requests (env : Env) (asked : Nat → UserCall → Prop) :
    Walk env asked (State.Requests env asked) where
  refl := fun _ => .of_log (Nat.le_refl _) rfl
  trans := .trans
  user := userCall_requests
  record := fun s event plain =>
    .of_none (Nat.le_refl _) rfl (by cases event <;> first | rfl | cases plain)
  notify := fun _ _ _ => .of_none (Nat.le_refl _) rfl rfl
  fields := fun _ _ _ log calls => .of_log calls log
  flush := fun _ => .of_log (Nat.le_refl _) rfl
  write := fun {_ _ _ _ _ event} _ made =>
    .of_none (Nat.le_refl _) rfl (by cases event <;> first | rfl | cases made)
  read := fun {s frame fconn host head now} _ =>
    .of_none (Nat.le_refl _) rfl (by cases frame <;> rfl)
  parse := fun {s frame packet host head} _ =>
    .of_none (Nat.le_refl _) rfl (by cases packet <;> rfl)

/-- Every request that a run accepts was made for a packet that user code asked for. -/
theorem run_madeFor {calls : List Call} {fconn : FrameConn} {host : Host}
    (ran : run env calls (State.start fconn host) = some s) :
    ∀ request ∈ acceptedIn s.log, ∃ packet, request.MadeFor env (Asked env calls) packet := by
  obtain ⟨-, events, log, made⟩ := (walk_requests env fun _ => Asked env calls).run
    (fun k c isIn => .inr ⟨k, isIn⟩) (fun c isIn _ => .inl isIn) ran
  have whole : s.log = events := log
  rw [whole]
  intro request isIn
  obtain ⟨k, -, made⟩ := made request isIn
  exact made

end Requests

/-! ## What a frame is decoded to -/

/-- Whoever has memory decodes the frame to the packet. -/
def Frame.DecodesTo (frame : Frame) (packet : Packet) : Prop :=
  ∀ (heap : Heap) (h : Host), heap.NeverFails →
    ∃ h', Packet.fromFrame heap frame h = some (some packet, h')

theorem Packet.layouts_of_toFrame {packet : Packet} {heap : Heap} {h : Host}
    {out : Option Frame × Host} (encoded : packet.toFrame heap h = some out) :
    packet.layouts.isSome := by
  cases layouts : packet.layouts with
  | none =>
    rw [Packet.toFrame, layouts] at encoded
    cases encoded
  | some _ => rfl

/-- The frame of a request that was made for a lossless packet is decoded to the packet, with any
sequence id and checksum. -/
theorem Request.MadeFor.decodesTo {accepted : Request} {env : Env} {asked : UserCall → Prop}
    {packet : Packet} (made : accepted.MadeFor env asked packet) (wellFormed : packet.WellFormed)
    (lossless : packet.Lossless) {request : Request} (same : accepted.content = request.content) :
    request.frame.DecodesTo packet := by
  obtain ⟨h, h', encoded⟩ := made.encoded
  obtain ⟨isData, -, isWritten⟩ :=
    Packet.payload_of_toFrame (Packet.layouts_of_toFrame encoded) lossless.notBattery encoded
  obtain ⟨-, dataType, -, payload⟩ : accepted.handle = request.handle ∧
      accepted.frame.dataType = request.frame.dataType ∧
      accepted.frame.payloadLength = request.frame.payloadLength ∧
      accepted.frame.payload = request.frame.payload := by
    simpa [Request.content] using same
  obtain ⟨size, bytes, layouts, accepts⟩ := lossless.agrees wellFormed
  rw [Packet.written, layouts, payload] at isWritten
  rw [dataType] at isData
  refine fun heap h never => Packet.fromFrame_of_accepts accepts isData ?_ never h
  rw [← Option.some.inj isWritten]
  exact List.prefix_refl _

/-! ## The copies on the wire -/

theorem writtenIn_cons (blocked : Bool) (event : Event) (rest : List Event) :
    writtenIn blocked (event :: rest) = writtenIn blocked [event] ++ writtenIn blocked rest :=
  writtenIn_append blocked [event] rest

theorem writtenIn_sublist (events : List Event) :
    (writtenIn false events).Sublist (writtenIn true events) := by
  induction events with
  | nil => exact .slnil
  | cons event rest ih =>
    rw [writtenIn_cons false, writtenIn_cons true]
    refine List.Sublist.append ?_ ih
    cases event with
    | wrote request result now =>
      by_cases whole : 0 ≤ result
      · simp [writtenIn, whole]
      · simp [writtenIn, whole]
    | _ => exact .slnil

/-- Of a request there are as many copies as transmissions. -/
theorem length_group_writtenIn (events : List Event) (handle : Handle) :
    (Groups.group Request.handle (writtenIn false events) handle).length =
      (transmissions events handle).length := by
  induction events with
  | nil => rfl
  | cons event rest ih =>
    have sent : transmissions (event :: rest) handle =
        transmissions [event] handle ++ transmissions rest handle := transmissions_append [event] rest handle
    rw [writtenIn_cons, sent, Groups.group, List.filter_append, List.length_append, List.length_append]
    refine congrArg₂ (· + ·) ?_ ih
    cases event with
    | wrote request result now =>
      by_cases whole : 0 ≤ result <;> by_cases own : request.handle = handle <;>
        simp [writtenIn, transmissions, whole, own]
    | _ => rfl

theorem Frame.Made.dataType {frame : Frame} (made : frame.Made) :
    frame.dataType = frameDataTypeDataMdr := by
  obtain ⟨heap, packet, h, h', encoded⟩ := made
  obtain ⟨again, h₁, written, runs, -, -, spec⟩ :=
    Packet.toFrame_spec heap h (Packet.layouts_of_toFrame encoded)
  obtain ⟨rfl, -⟩ := Prod.mk.inj (Option.some.inj (runs.symm.trans encoded))
  exact (spec frame rfl).dataType

/-- The frames of the requests that are written are data frames. -/
theorem run_isData {env : Env} {calls : List Call} {fconn : FrameConn} {host : Host} {s : State}
    (ran : run env calls (State.start fconn host) = some s) :
    ∀ request ∈ writtenIn true s.log, request.frame.dataType = frameDataTypeDataMdr := by
  intro request isIn
  obtain ⟨accepted, isAccepted, same⟩ := (run_queue_inTurn ran).written request isIn
  obtain ⟨packet, madeFor⟩ := run_madeFor ran accepted isAccepted
  obtain ⟨h, h', encoded⟩ := madeFor.encoded
  have made : accepted.frame.Made := ⟨_, packet, h, h', encoded⟩
  have sameType : accepted.frame.dataType = request.frame.dataType := by
    simp only [Request.content, Prod.mk.injEq] at same
    exact same.2.1
  rw [← sameType]
  exact made.dataType

/-- A frame on the wire that is not an ACK is that of a request. -/
theorem writtenWhole_data {events : List Event} (sourced : ∀ event ∈ events, event.Sourced)
    (results : ∀ attempt ∈ attemptsIn events, attempt.2 = 0 ∨ attempt.2 = -1)
    (isData : ∀ request ∈ writtenIn true events, request.frame.dataType = frameDataTypeDataMdr) :
    (FrameConn.writtenWhole (attemptsIn events)).filter
        (fun frame => frame.dataType = frameDataTypeDataMdr) =
      (writtenIn false events).map Request.frame := by
  induction events with
  | nil => rfl
  | cons event rest ih =>
    have attempts : attemptsIn (event :: rest) = attemptsIn [event] ++ attemptsIn rest :=
      attemptsIn_append [event] rest
    rw [attempts] at results ⊢
    rw [writtenIn_cons] at isData
    have later := ih (fun other isIn => sourced other (List.mem_cons_of_mem _ isIn))
      (fun attempt isIn => results attempt (List.mem_append_right _ isIn))
      (fun request isIn => isData request (List.mem_append_right _ isIn))
    rw [writtenIn_cons, FrameConn.writtenWhole, List.filterMap_append, List.filter_append, List.map_append]
    refine congrArg₂ (· ++ ·) ?_ later
    cases event with
    | wrote request result now =>
      have isWritten : request ∈ writtenIn true [.wrote request result now] :=
        List.mem_filterMap.mpr ⟨_, List.mem_cons_self, if_pos (.inr rfl)⟩
      have data := isData request (List.mem_append_left _ isWritten)
      have ended := results (request.frame, result)
        (List.mem_append_left _ List.mem_cons_self)
      dsimp only at ended
      rcases ended with rfl | rfl <;> simp [attemptsIn, Event.attempt, writtenIn, data]
    | wroteAck frame result =>
      obtain ⟨received, rfl⟩ := sourced (.wroteAck frame result) List.mem_cons_self
      by_cases whole : result = 0
      · simp [attemptsIn, Event.attempt, writtenIn, whole, ackFrame, frameDataTypeAck,
          frameDataTypeDataMdr]
      · simp [attemptsIn, Event.attempt, writtenIn, whole]
    | _ => rfl

/-! ## Runs -/

theorem exists_forall₂ {β γ : Type} {related : β → γ → Prop} {xs : List β}
    (each : ∀ x ∈ xs, ∃ y, related x y) : ∃ ys, List.Forall₂ related xs ys := by
  induction xs with
  | nil => exact ⟨[], .nil⟩
  | cons x rest ih =>
    obtain ⟨y, first⟩ := each x List.mem_cons_self
    obtain ⟨ys, later⟩ := ih fun x isIn => each x (List.mem_cons_of_mem _ isIn)
    exact ⟨y :: ys, .cons first later⟩

theorem forall₂_replicate {β γ : Type} {related : β → γ → Prop} {xs : List β} {y : γ} {n : Nat}
    (length : xs.length = n) (each : ∀ x ∈ xs, related x y) :
    List.Forall₂ related xs (List.replicate n y) := by
  refine List.forall₂_iff_get.mpr ⟨by rw [length, List.length_replicate], fun i inXs inYs => ?_⟩
  rw [List.get_eq_getElem, List.get_eq_getElem, List.getElem_replicate]
  exact each _ (List.getElem_mem inXs)

/-- The copies of each request next to each other, in the order of acceptance, are the data frames
on the wire. -/
theorem run_copies {env : Env} {calls : List Call} {fconn : FrameConn} {host : Host} {s : State}
    (ran : run env calls (State.start fconn host) = some s)
    (results : ∀ attempt ∈ attemptsIn s.log, attempt.2 = 0 ∨ attempt.2 = -1)
    {sent : List (Packet × Nat)}
    (copies : List.Forall₂ (fun accepted x =>
      x.2 = (transmissions s.log accepted.handle).length ∧ ∀ request : Request,
        accepted.content = request.content → request.frame.DecodesTo x.1) (acceptedIn s.log) sent) :
    List.Forall₂ Frame.DecodesTo
      ((FrameConn.writtenWhole (attemptsIn s.log)).filter
        fun frame => frame.dataType = frameDataTypeDataMdr)
      (sent.flatMap fun x => List.replicate x.2 x.1) := by
  obtain ⟨records, recorded⟩ := run_log ran
  have inTurn := run_queue_inTurn ran
  -- The data frames are the copies of the requests.
  rw [writtenWhole_data recorded.sourced results (run_isData ran)]
  -- The copies are the groups of the requests, in the order of acceptance.
  have increasing := records.numbered.increasing
  have sorted : (writtenIn false s.log).Pairwise fun x y => x.handle ≤ y.handle :=
    (inTurn.inTurn.sublist (writtenIn_sublist s.log)).imp Request.Before.le
  have covered : ∀ request ∈ writtenIn false s.log,
      request.handle ∈ (acceptedIn s.log).map Request.handle := by
    intro request isIn
    obtain ⟨accepted, isAccepted, same⟩ :=
      inTurn.written request ((writtenIn_sublist s.log).subset isIn)
    exact List.mem_map.mpr ⟨accepted, isAccepted, Request.handle_of_content same⟩
  have groups := Groups.flatMap_group sorted (List.pairwise_map.mpr increasing) covered
  rw [← groups, List.flatMap_map, List.map_flatMap]
  refine List.rel_flatMap ((List.forall₂_and_left _ _).mpr ⟨fun _ isIn => isIn, copies⟩) ?_
  rintro accepted x ⟨isAccepted, count, decodes⟩
  refine forall₂_replicate ?_ ?_
  · rw [List.length_map, count]
    exact length_group_writtenIn s.log accepted.handle
  · intro frame isFrame
    obtain ⟨request, isCopy, rfl⟩ := List.mem_map.mp isFrame
    obtain ⟨isWritten, sameHandle⟩ := (Groups.mem_group _).mp isCopy
    obtain ⟨other, isOther, same⟩ :=
      inTurn.written request ((writtenIn_sublist s.log).subset isWritten)
    -- Handles tell the accepted requests apart.
    have nodup : ((acceptedIn s.log).map Request.handle).Nodup :=
      (List.pairwise_map.mpr increasing).imp Nat.ne_of_lt
    have only : other = accepted := List.inj_on_of_nodup_map nodup isOther isAccepted
      ((Request.handle_of_content same).trans sameHandle)
    rw [only] at same
    exact decodes request same

/-- The copies of a request, and how many there are. -/
structure Delivered (env : Env) (calls : List Call) (log : List Event) (accepted : Request)
    (sent : Packet × Nat) : Prop where
  madeFor : accepted.MadeFor env (Asked env calls) sent.1
  count : sent.2 = (transmissions log accepted.handle).length
  few : sent.2 ≤ packetMaxTries

/-- The data frames on the wire, in the order of the requests. -/
theorem run_decodes {env : Env} {calls : List Call} {fconn : FrameConn} {host : Host} {s : State}
    (ran : run env calls (State.start fconn host) = some s)
    (results : ∀ attempt ∈ attemptsIn s.log, attempt.2 = 0 ∨ attempt.2 = -1)
    (lossless : ∀ packet spec callbacks, Asked env calls (.makeRequest packet spec callbacks) →
      packet.WellFormed ∧ packet.Lossless) :
    ∃ sent : List (Packet × Nat),
      List.Forall₂ (Delivered env calls s.log) (acceptedIn s.log) sent ∧
      List.Forall₂ Frame.DecodesTo
        ((FrameConn.writtenWhole (attemptsIn s.log)).filter
          fun frame => frame.dataType = frameDataTypeDataMdr)
        (sent.flatMap fun x => List.replicate x.2 x.1) := by
  have inTurn := run_queue_inTurn ran
  have each : ∀ accepted ∈ acceptedIn s.log, ∃ x, Delivered env calls s.log accepted x := by
    intro accepted isIn
    obtain ⟨packet, madeFor⟩ := run_madeFor ran accepted isIn
    exact ⟨(packet, _), madeFor, rfl, inTurn.most accepted.handle⟩
  obtain ⟨sent, delivered⟩ := exists_forall₂ each
  refine ⟨sent, delivered, run_copies ran results (delivered.imp fun accepted x made => ?_)⟩
  refine ⟨made.count, fun request same => ?_⟩
  obtain ⟨isWellFormed, isLossless⟩ := lossless _ _ _ made.madeFor.asked
  exact made.madeFor.decodesTo isWellFormed isLossless same

/-- **Packets arrive as they were asked for.** In a run that leaves the write buffer empty, with
user code that asks for packets the format does not spoil: a peer that de-frames the bytes on the
wire, cut into chunks in any way, and has memory to decode the data frames gets for the accepted
requests, in the order of their acceptance, the packet that was asked for, once for each write that
returned 0 and no more than three times. No packet is lost in between, changed, or overtaken by a
later one. -/
theorem run_delivers {env : Env} {calls : List Call} {fconn : FrameConn} {host peer : Host}
    {s : State} {chunks : List (List UInt8)}
    (ran : run env calls (State.start fconn host) = some s) (unsent : host.wire = [])
    (drained : s.conn.fconn.writeBuf = []) (cut : chunks.flatten = s.host.wire)
    (reads : peer.reads = Host.chunked chunks)
    (lossless : ∀ packet spec callbacks, Asked env calls (.makeRequest packet spec callbacks) →
      packet.WellFormed ∧ packet.Lossless) :
    ∃ frames c h, FrameConn.readAll .fresh peer = some (frames, c, h) ∧
      ∃ sent : List (Packet × Nat),
        List.Forall₂ (Delivered env calls s.log) (acceptedIn s.log) sent ∧
        List.Forall₂ Frame.DecodesTo
          (frames.filter fun frame => frame.dataType = frameDataTypeDataMdr)
          (sent.flatMap fun x => List.replicate x.2 x.1) := by
  obtain ⟨pieces, wire, gave, wellFormed⟩ := run_pieces ran unsent drained
  obtain ⟨c, h, read⟩ := FrameConn.readAll_of_attempts gave wellFormed (cut.trans wire) reads
  exact ⟨_, c, h, read, run_decodes ran (FrameConn.results_of_gave gave) lossless⟩

/-- The same request twice. The first is written in two pieces, and again when no ACK has come. -/
theorem run_delivers_power_off_twice :
    ∃ s, run Env.idle [.user powerOff, .user powerOff, .process ⟨0, 0⟩ false true,
        .process ⟨2, 0⟩ true true, .process ⟨2, 0⟩ false true] (State.start .fresh (.listing
          [.data [0x3e, 1, 1, 0, 0, 0, 0, 2, 0x3c]] [.wrote 5, .wrote 100, .wrote 100, .wrote 100]))
        = some s ∧
      (acceptedIn s.log).map (fun request => (transmissions s.log request.handle).length) = [2, 1] ∧
      ∃ frames c h, FrameConn.readAll .fresh (.listing (Host.chunked [s.host.wire]) []) =
          some (frames, c, h) ∧
        ∃ sent : List (Packet × Nat),
          List.Forall₂ (Delivered Env.idle [.user powerOff, .user powerOff,
            .process ⟨0, 0⟩ false true, .process ⟨2, 0⟩ true true, .process ⟨2, 0⟩ false true] s.log)
            (acceptedIn s.log) sent ∧
          List.Forall₂ Frame.DecodesTo
            (frames.filter fun frame => frame.dataType = frameDataTypeDataMdr)
            (sent.flatMap fun x => List.replicate x.2 x.1) := by
  obtain ⟨s, ran, shown⟩ := (Option.any_eq_true _ _).mp (show (run Env.idle
    [.user powerOff, .user powerOff, .process ⟨0, 0⟩ false true, .process ⟨2, 0⟩ true true,
      .process ⟨2, 0⟩ false true] (State.start .fresh (.listing
      [.data [0x3e, 1, 1, 0, 0, 0, 0, 2, 0x3c]] [.wrote 5, .wrote 100, .wrote 100, .wrote 100]))).any
    (fun s => decide ((acceptedIn s.log).map (fun request =>
      (transmissions s.log request.handle).length) = [2, 1] ∧ s.conn.fconn.writeBuf = [])) = true
    by decide +kernel)
  obtain ⟨counts, drained⟩ := of_decide_eq_true shown
  refine ⟨s, ran, counts, run_delivers ran rfl drained (by simp) rfl ?_⟩
  rintro packet spec callbacks (isIn | ⟨k, isIn⟩)
  · have only : packet = .commonSetPowerOff ⟨.fixedValue, .userPowerOff⟩ := by
      simp [powerOff] at isIn
      exact isIn.1
    rw [only]
    exact ⟨⟨trivial, trivial⟩, trivial, by decide, id, id⟩
  · cases isIn

end Libmdr
