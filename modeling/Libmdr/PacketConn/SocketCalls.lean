import Libmdr.FrameConn.Calls
import Libmdr.PacketConn.Returning

/-!
# The calls on the socket

What becomes of the errors of one call of `mdr_packetconn_process_by_availability`, and which
`write` and `read` calls it makes, also when it does not return. An errno that is not EAGAIN
ends the call when a write gives it; when the read does it is lost. The flags bar every `read`
and the writes of the flush and of a first attempt, but neither a retransmission nor the ACK of
a received frame.
-/

namespace Libmdr
set_option autoImplicit false

/-- What a write does to the frame connection and the host. -/
theorem transmit_host {env : Env} {now : Timespec} {s t : State} {result : Int} {head : Request}
    (run : transmit env now head s = some (result, t)) :
    ∃ written, s.conn.fconn.writeFrame env.heap s.host head.frame =
      some (written, t.conn.fconn, t.host) ∧ result = reported written t.host := by
  obtain ⟨written, fconn, host, wrote, reports, rfl⟩ := transmit_cases run
  refine ⟨written, ?_, ?_⟩ <;> split <;> assumption

/-! ## Errors -/

/-- A call of the frame connection that fails, at its place, with the errno that it leaves. -/
inductive FailedCall (env : Env) (now : Timespec) (readable writable : Bool) (s : State) :
    Errno → Prop
  | flush {result : Int} {fconn : FrameConn} {host : Host} (isWritable : writable = true)
      (call : s.conn.fconn.flushWrite s.host = some (result, fconn, host)) (failed : result < 0) :
      FailedCall env now readable writable s host.errno
  | write {t : State} {head : Request} {rest : List Request} {result : Int} {fconn : FrameConn}
      {host : Host} (send : AtSend writable s t)
      (first : t.conn.queue.requests = head :: rest) (due : WriteDue now writable head)
      (call : t.conn.fconn.writeFrame env.heap t.host head.frame = some (result, fconn, host))
      (failed : result < 0) : FailedCall env now readable writable s host.errno
  | read {t u : State} {fconn : FrameConn} {host : Host} (isReadable : readable = true)
      (send : AtSend writable s t) (atRead : AtRead env now writable t u)
      (call : u.conn.fconn.readFrame u.host = some (none, fconn, host)) :
      FailedCall env now readable writable s host.errno

/-- The packet of a data frame that is read can be made of it, once the ACK is written. -/
def ReceivedParses (env : Env) (now : Timespec) (readable writable : Bool) (s : State) : Prop :=
  readable = true → ∀ frame t, readsFrame env now writable s = some (some frame, t) →
    frame.dataType = frameDataTypeDataMdr → ∀ result fconn host,
    t.conn.fconn.writeFrame env.heap t.host (ackFrame frame) = some (result, fconn, host) →
    ∃ packet host', Packet.fromFrame env.heap frame host = some (some packet, host')

/-- The result tells what became of the calls on the socket: -1 with the errno of the one that
failed for good, and 0 when none did and what was read is a packet. -/
structure ReportsErrors (env : Env) (now : Timespec) (readable writable : Bool) (s : State) :
    Prop where
  fatal : ∀ e, FailedCall env now readable writable s e → ¬ Harmless e →
    ∃ t, process env now readable writable s = some (-1, t) ∧ t.host.errno = e
  goesOn : (∀ e, FailedCall env now readable writable s e → Harmless e) →
    ReceivedParses env now readable writable s →
    ∃ limit t, process (env.withLimit limit) now readable writable s = some (0, t)

/-- The call gets as far as reading, and before a frame is complete a `read` fails for good. -/
def ReadBreaks (env : Env) (now : Timespec) (readable writable : Bool) (s : State) : Prop :=
  readable = true ∧ GetsToRead env now writable s ∧
    ∃ e, s.conn.fconn.FailsWith e s.host.reads ∧ ¬ Harmless e

/-- The read of the frame connection returns. -/
def ReadReturns (env : Env) (now : Timespec) (readable writable : Bool) (s : State) : Prop :=
  readable = true → ∀ t, AtSend writable s t → ∀ u, AtRead env now writable t u →
    (u.conn.fconn.readFrame u.host).isSome

section Errors

variable {env : Env} {now : Timespec} {readable writable : Bool} {s t : State} {result : Int}

/-- The flush and the send give -1 only for a call that failed for good. -/
theorem failedCall_of_process_false (run : process env now false writable s = some (result, t))
    (failed : result < 0) :
    ∃ e, FailedCall env now readable writable s e ∧ ¬ Harmless e := by
  obtain ⟨flushed, u, flush, ending⟩ := process_false_cases run
  have noFailure : flushed = 0 ∨
      ∃ e, FailedCall env now readable writable s e ∧ ¬ Harmless e := by
    obtain ⟨-, rfl, -⟩ | ⟨flushed, fconn, host, isWritable, call, -, rfl⟩ := flushPart_cases flush
    · exact .inl rfl
    · rcases reported_cases flushed host with ⟨-, lost, fatal⟩ | ⟨zero, -⟩
      · exact .inr ⟨host.errno, .flush isWritable call lost, fatal⟩
      · exact .inl zero
  rcases noFailure with rfl | found
  · obtain ⟨broken, -⟩ | ⟨-, sent, send, rfl⟩ := ending
    · exact absurd broken (Int.lt_irrefl 0)
    · obtain ⟨head, rest, first, due, call⟩ | ⟨-, rfl, -⟩ := sendPart_cases send
      · obtain ⟨written, wrote, rfl⟩ := transmit_host call
        rcases reported_cases written t.host with ⟨-, lost, fatal⟩ | ⟨zero, -⟩
        · exact ⟨t.host.errno, .write (atSend_iff.mpr flush) first due wrote lost, fatal⟩
        · rw [zero] at failed
          exact absurd failed (Int.lt_irrefl 0)
      · exact absurd failed (Int.lt_irrefl 0)
  · exact found

/-- A flush or a write that fails for good ends the call, and nothing sets errno again. -/
theorem process_of_failedCall {e : Errno} (call : FailedCall env now readable writable s e)
    (fatal : ¬ Harmless e) (noRead : ¬ ReadBreaks env now readable writable s) :
    ∃ t, process env now readable writable s = some (-1, t) ∧ t.host.errno = e := by
  cases call with
  | @flush flushed fconn host isWritable call failed =>
    refine ⟨s.afterRead fconn host, ?_, rfl⟩
    have first := flushPart_of_flushWrite call
    rw [reported_fatal failed fatal] at first
    rw [isWritable]
    simp only [process, first, Option.bind_eq_bind, Option.bind_some]
    rfl
  | @write t head rest written fconn host send first due call failed =>
    have sent := transmit_of_writeFrame now call
    rw [reported_fatal failed fatal, ← sendPart_of_due first due] at sent
    refine ⟨_, ?_, congrArg Host.errno (State.wrote_host t now head written fconn host)⟩
    simp only [process, atSend_iff.mp send, sent, Option.bind_eq_bind, Option.bind_some]
    rfl
  | @read t u fconn host isReadable send atRead call =>
    obtain ⟨-, back, reads⟩ := process_false_conn (process_false_iff.mpr ⟨t, send, atRead⟩)
    have fails := (FrameConn.failsWith_of_readFrame call).withWriteBuf s.conn.fconn.writeBuf
    rw [← back, reads] at fails
    exact absurd ⟨isReadable, ⟨t, send, u, atRead⟩, host.errno, fails, fatal⟩ noRead

/-- A frame whose packet can be made of it is received without a failure. -/
theorem receivePart_result (run : receivePart env now s = some (result, t))
    (parses : ∀ frame c h, s.conn.fconn.readFrame s.host = some (some frame, c, h) →
      frame.dataType = frameDataTypeDataMdr → ∀ written fconn host,
      c.writeFrame env.heap h (ackFrame frame) = some (written, fconn, host) →
      ∃ packet host', Packet.fromFrame env.heap frame host = some (some packet, host')) :
    result = 0 := by
  unfold receivePart at run
  split at run
  · cases run
  · cases run
    rfl
  · rename_i frame c h read
    unfold receiveFrame at run
    dsimp only at run
    split at run
    · simp only [Option.bind_eq_bind, Option.bind_eq_some_iff] at run
      obtain ⟨u, -, run⟩ := run
      cases run
      rfl
    split at run
    · rename_i isData
      simp only [receiveData, Option.bind_eq_bind, Option.bind_eq_some_iff] at run
      obtain ⟨⟨written, fconn, host⟩, wrote, ⟨packet, host'⟩, made, run⟩ := run
      obtain ⟨packet', host'', parsed⟩ := parses frame c h read isData written fconn host wrote
      dsimp only [State.record_host] at made
      rw [parsed] at made
      cases made
      simp only [Option.bind_eq_some_iff] at run
      obtain ⟨u, -, run⟩ := run
      cases run
      rfl
    · cases run
      rfl

/-- The test behind the read assigns to errno, and the call returns 0. -/
theorem not_reportsErrors (breaks : ReadBreaks env now readable writable s) :
    ¬ ReportsErrors env now readable writable s := by
  obtain ⟨rfl, ⟨v, send, t, atRead⟩, e, fails, fatal⟩ := breaks
  have run := process_false_iff.mpr ⟨v, send, atRead⟩
  intro reports
  obtain ⟨there, -, reads⟩ := process_false_conn run
  have here := fails.withWriteBuf t.conn.fconn.writeBuf
  rw [← there] at here
  obtain ⟨c, h, read, rfl⟩ := FrameConn.readFrame_of_failsWith here t.host reads
  obtain ⟨u, returned, -⟩ := reports.fatal h.errno (.read rfl send atRead read) fatal
  rw [process_true, run] at returned
  simp only [Option.bind_some, Int.lt_irrefl, if_false, receivePart, read] at returned
  cases returned

/-- The read is made where a call that does not read would return 0. -/
theorem readReturns_iff : ReadReturns env now readable writable s ↔ (readable = true → ∀ t,
    process env now false writable s = some (0, t) →
    (t.conn.fconn.readFrame t.host).isSome) := by
  refine imp_congr_right fun _ => ⟨fun returns t run => ?_, fun returns v send t atRead => ?_⟩
  · obtain ⟨v, send, atRead⟩ := process_false_iff.mp run
    exact returns v send t atRead
  · exact returns t (process_false_iff.mpr ⟨v, send, atRead⟩)

/-- What is read at the end of the stream at the latest is what is read now, when the read
returns. -/
theorem ReadReturns.found (reads : ReadReturns env now readable writable s) {frame : Frame}
    {u : State} (found : ReadsData env now readable writable s frame u) :
    ∃ t c h n, process env now false writable s = some (0, t) ∧
      t.conn.fconn.readFrame t.host = some (some frame, c, h) ∧
      u = (t.afterRead c h).mapHost (Host.endOfStream n) := by
  obtain ⟨isReadable, isData, t, c, h, n, run, call, rfl⟩ := readsData_iff.mp found
  obtain ⟨⟨frame', c', h'⟩, call'⟩ :=
    Option.isSome_iff_exists.mp (readReturns_iff.mp reads isReadable t run)
  have call'' := call'
  rw [← Host.endOfStream_zero t.host] at call''
  obtain ⟨rfl, rfl, same⟩ := readFrame_agree call call''
  rw [Host.endOfStream_zero] at same
  exact ⟨t, c, h', n, run, call', congrArg (fun host => t.afterRead c host) same⟩

/-- In a call that returns each call on the frame connection does, and so does the loop over the
subscriptions. -/
theorem ends_of_returned (returns : env.CallbacksReturn)
    (returned : ∃ limit, (process (env.withLimit limit) now readable writable s).isSome) :
    WritesEnd env now readable writable s ∧ ReadReturns env now readable writable s ∧
      PassesOn env now readable writable s := by
  obtain ⟨before, received⟩ := process_ends_iff.mp returned
  obtain ⟨flush, send⟩ := (process_false_isSome_iff returns).mp before
  have behind (isReadable : readable = true) {t : State}
      (run : process env now false writable s = some (0, t)) :=
    (receivePart_ends_iff returns).mp (received isReadable t run)
  have reads : ReadReturns env now readable writable s :=
    readReturns_iff.mpr fun isReadable t run => (behind isReadable run).1
  have ends {frame : Frame} {u : State}
      (found : ReadsData env now readable writable s frame u) : FrameEnds env now frame u := by
    obtain ⟨isReadable, isData, -⟩ := readsData_iff.mp found
    obtain ⟨t, c, h, n, run, call, rfl⟩ := reads.found found
    rw [frameEnds_unread returns (Host.unread_endOfStream n)]
    exact (behind isReadable run).2 frame c h call isData
  exact ⟨⟨flush, send, fun frame u found => (ends found).ack⟩, reads,
    fun frame u found => (ends found).packet⟩

/-- The same holds when the ACK of the frame that is read is written, and the frame makes no
packet. -/
theorem ends_of_unmade (returns : env.CallbacksReturn) {frame : Frame} {c fconn : FrameConn}
    {h host : Host} (run : process env now false writable s = some (0, t))
    (call : t.conn.fconn.readFrame t.host = some (some frame, c, h))
    (wrote : c.writeFrame env.heap h (ackFrame frame) = some (result, fconn, host))
    (unmade : ¬ ∃ packet host', Packet.fromFrame env.heap frame host =
      some (some packet, host')) :
    WritesEnd env now readable writable s ∧ ReadReturns env now readable writable s ∧
      PassesOn env now readable writable s := by
  have only (t' : State) (run' : process env now false writable s = some (0, t')) : t' = t :=
    (Prod.mk.inj (Option.some.inj (run'.symm.trans run))).2
  have reads : ReadReturns env now readable writable s := by
    refine readReturns_iff.mpr fun _ t' run' => ?_
    rw [only t' run', call]
    rfl
  -- Reads at the end of the stream change nothing for the write and for the packet.
  have behind {frame' : Frame} {u : State}
      (found : ReadsData env now readable writable s frame' u) :
      frame' = frame ∧ ∃ n, u = (t.afterRead c h).mapHost (Host.endOfStream n) := by
    obtain ⟨t', c', h', n, run', call', rfl⟩ := reads.found found
    obtain rfl := only t' run'
    rw [call] at call'
    cases call'
    exact ⟨rfl, n, rfl⟩
  have writes (n : Nat) : c.writeFrame env.heap (h.endOfStream n) (ackFrame frame) =
      some (result, fconn, host.endOfStream n) :=
    (FrameConn.writeFrame_unread (Host.unread_endOfStream n) env.heap c h _).trans
      (congrArg _ wrote)
  obtain ⟨flush, send⟩ := (process_false_isSome_iff returns).mp (Option.isSome_of_eq_some run)
  refine ⟨⟨flush, send, fun frame' u found => ?_⟩, reads, fun frame' u found => ?_⟩
  · obtain ⟨rfl, n, rfl⟩ := behind found
    exact FrameConn.writeFrame_isSome_iff.mp (Option.isSome_of_eq_some (writes n))
  · obtain ⟨rfl, n, rfl⟩ := behind found
    intro result' fconn' host₁ packet host₂ wrote' made
    cases wrote'.symm.trans (writes n)
    rw [Packet.fromFrame_hidden (Host.unread_endOfStream n).toHidden] at made
    obtain ⟨⟨packet', host'⟩, parsed, same⟩ := Option.map_eq_some_iff.mp made
    cases same
    exact absurd ⟨packet, host', parsed⟩ unmade

theorem ReceivedParses.made (parses : ReceivedParses env now readable writable s) {frame : Frame}
    {c : FrameConn} {h : Host} (isReadable : readable = true)
    (run : process env now false writable s = some (0, t))
    (call : t.conn.fconn.readFrame t.host = some (some frame, c, h))
    (isData : frame.dataType = frameDataTypeDataMdr) {fconn : FrameConn} {host : Host}
    (wrote : c.writeFrame env.heap h (ackFrame frame) = some (result, fconn, host)) :
    ∃ packet host', Packet.fromFrame env.heap frame host = some (some packet, host') :=
  parses isReadable frame (t.afterRead c h) (readsFrame_split.mpr ⟨t, c, h, run, call, rfl⟩) isData
    result fconn host wrote

/-- A call returns when its calls do and what it reads is a packet. -/
theorem returned_of_ends (returns : env.CallbacksReturn)
    (writes : WritesEnd env now readable writable s)
    (reads : ReadReturns env now readable writable s)
    (passes : PassesOn env now readable writable s)
    (parses : ReceivedParses env now readable writable s) :
    ∃ limit, (process (env.withLimit limit) now readable writable s).isSome := by
  have first : (process env now false writable s).isSome :=
    (process_false_isSome_iff returns).mpr ⟨writes.flush, writes.send⟩
  refine process_ends_iff.mpr ⟨first, fun isReadable t run => ?_⟩
  refine (receivePart_ends_iff returns).mpr
    ⟨readReturns_iff.mp reads isReadable t run, fun frame c h call isData => ?_⟩
  have found : ReadsData env now readable writable s frame (t.afterRead c h) :=
    readsData_iff.mpr ⟨isReadable, isData, t, c, h, 0, run,
      by rwa [Host.endOfStream_zero], rfl⟩
  refine ⟨writes.ack frame _ found, ?_, passes frame _ found⟩
  intro result c' h' wrote
  obtain ⟨packet, host, made⟩ := parses.made isReadable run call isData wrote
  exact Option.isSome_of_eq_some made

/-- A call in which nothing fails for good, and what is read is a packet, gives 0. -/
theorem process_result {limit : Nat}
    (run : process (env.withLimit limit) now readable writable s = some (result, t))
    (harmless : ∀ e, FailedCall env now readable writable s e → Harmless e)
    (parses : ReceivedParses env now readable writable s) : result = 0 := by
  have before {sent : Int} {u : State}
      (first : process env now false writable s = some (sent, u)) : sent = 0 := by
    rcases (process_false_reading first).1 with zero | rfl
    · exact zero
    · obtain ⟨e, call, fatal⟩ := failedCall_of_process_false first (by decide)
      exact absurd (harmless e call) fatal
  cases readable with
  | false => exact before run
  | true =>
    rw [process_true, Option.bind_eq_some_iff] at run
    obtain ⟨⟨sent, u⟩, first, run⟩ := run
    obtain rfl := before first
    exact receivePart_result run fun frame c h call isData written fconn host wrote =>
      parses.made rfl first call isData wrote

end Errors

/-- **An error of the socket is reported unless `read` gives it, and 0 is returned unless a
call on the frame connection does not return, or the loop over the subscriptions does not.** -/
theorem reportsErrors_iff {env : Env} (returns : env.CallbacksReturn) (now : Timespec)
    (readable writable : Bool) (s : State) : ReportsErrors env now readable writable s ↔
      ¬ ReadBreaks env now readable writable s ∧ WritesEnd env now readable writable s ∧
        ReadReturns env now readable writable s ∧ PassesOn env now readable writable s := by
  constructor
  · intro reports
    refine ⟨fun breaks => not_reportsErrors breaks reports, ?_⟩
    by_cases returned : ∃ limit, (process (env.withLimit limit) now readable writable s).isSome
    · exact ends_of_returned returns returned
    · -- No call failed for good, so what was read made no packet, and its ACK was written.
      have harmless (e : Errno) (call : FailedCall env now readable writable s e) : Harmless e := by
        by_contra fatal
        obtain ⟨t, run, -⟩ := reports.fatal e call fatal
        exact returned ⟨env.limit, Option.isSome_of_eq_some run⟩
      have unparsed : ¬ ReceivedParses env now readable writable s := by
        intro parses
        obtain ⟨limit, t, run⟩ := reports.goesOn harmless parses
        exact returned ⟨limit, Option.isSome_of_eq_some run⟩
      simp only [ReceivedParses, not_forall] at unparsed
      obtain ⟨isReadable, frame, u, found, isData, result, fconn, host, wrote, unmade⟩ := unparsed
      obtain ⟨t, c, h, run, call, rfl⟩ := readsFrame_split.mp found
      exact ends_of_unmade returns run call wrote unmade
  · rintro ⟨noRead, writes, reads, passes⟩
    refine ⟨fun e call fatal => process_of_failedCall call fatal noRead, ?_⟩
    intro harmless parses
    obtain ⟨limit, ended⟩ := returned_of_ends returns writes reads passes parses
    obtain ⟨⟨result, u⟩, run⟩ := Option.isSome_iff_exists.mp ended
    obtain rfl := process_result run harmless parses
    exact ⟨limit, u, run⟩

/-- A battery notice is read and acknowledged while nothing is to be sent. -/
theorem reportsErrors_iff_notice :
    let s := State.start .fresh
      (.listing [.data [0x3e, 0x0c, 1, 0, 0, 0, 4, 0x13, 0, 10, 0, 0x2e, 0x3c]] [.wrote 100])
    ReportsErrors Env.idle ⟨0, 0⟩ true true s ↔ ¬ ReadBreaks Env.idle ⟨0, 0⟩ true true s ∧
      WritesEnd Env.idle ⟨0, 0⟩ true true s ∧ ReadReturns Env.idle ⟨0, 0⟩ true true s ∧
      PassesOn Env.idle ⟨0, 0⟩ true true s := by
  intro s
  exact reportsErrors_iff (fun _ _ => rfl) ⟨0, 0⟩ true true s

/-- The peer resets the connection: `read` fails with ECONNRESET, and 0 is returned. -/
theorem not_reportsErrors_connection_reset :
    ¬ ReportsErrors Env.idle ⟨0, 0⟩ true true (.start .fresh (.listing [.err 104] [])) := by
  have scanned : FrameConn.nextFrame .fresh 0 = (none, .fresh, 0) := by decide +kernel
  refine not_reportsErrors ⟨rfl, ?_, 104, .failed scanned rfl, ?_⟩
  · refine getsToRead_iff.mpr ⟨.start .fresh (.listing [.err 104] []), ?_⟩
    simp only [process, flushPart, if_true, Option.bind_eq_bind]
    rw [FrameConn.flushWrite_empty rfl]
    rfl
  · rintro (again | again) <;> cases again

/-! ## The flags -/

/-- The calls of the flush. -/
def flushPartCalls (writable : Bool) (s : State) : List SocketCall :=
  if writable then s.conn.fconn.flushWriteCalls s.host else []

/-- The calls of the send half. -/
def sendPartCalls (env : Env) (now : Timespec) (writable : Bool) (s : State) : List SocketCall :=
  let transmitCalls (head : Request) := s.conn.fconn.writeFrameCalls env.heap s.host head.frame
  match s.conn.queue.requests with
  | [] => []
  | head :: _ =>
    if head.attempts = 0 then
      if writable then transmitCalls head else []
    else if 0 < timespecCompare now head.timeout then
      if head.acked ∨ packetMaxTries ≤ head.attempts then [] else transmitCalls head
    else []

/-- The calls behind a frame that was read: a data frame is acknowledged. -/
def receiveFrameCalls (env : Env) (frame : Frame) (c : FrameConn) (h : Host) : List SocketCall :=
  if frame.dataType = frameDataTypeAck then []
  else if frame.dataType = frameDataTypeDataMdr then c.writeFrameCalls env.heap h (ackFrame frame)
  else []

/-- The calls of the read and of what follows it. -/
def receivePartCalls (env : Env) (c : FrameConn) (h : Host) : List SocketCall :=
  c.readFrameCalls h ++
    match c.readFrame h with
    | some (some frame, c, h) => receiveFrameCalls env frame c h
    | _ => []

/-- The calls on the socket of one call of `mdr_packetconn_process_by_availability`, whether it
returns or not. User code calls the packet connection only, and none of these functions calls
the socket. -/
def socketCalls (env : Env) (now : Timespec) (readable writable : Bool) (s : State) :
    List SocketCall :=
  flushPartCalls writable s ++
    match flushPart writable s with
    | none => []
    | some (flushed, s) =>
      if flushed < 0 then []
      else
        sendPartCalls env now writable s ++
          match sendPart env now writable s with
          | none => []
          | some (sent, s) =>
            if sent < 0 then []
            else if readable then receivePartCalls env s.conn.fconn s.host else []

/-- A call that is told not to write makes no `write`, and one that is told not to read makes
no `read`. -/
structure RespectsAvailability (env : Env) (now : Timespec) (readable writable : Bool) (s : State) :
    Prop where
  noWrite : writable = false → ∀ bytes, .write bytes ∉ socketCalls env now readable writable s
  noRead : readable = false → ∀ n, .read n ∉ socketCalls env now readable writable s

/-- The first request is due, and to write its frame `write` is called. -/
def SendWrites (env : Env) (now : Timespec) (writable : Bool) (s : State) : Prop :=
  ∃ head rest, s.conn.queue.requests = head :: rest ∧ WriteDue now writable head ∧
    s.conn.fconn.CallsWrite env.heap s.host head.frame

/-- A data frame is read, and to write its ACK `write` is called. -/
def AckWrites (env : Env) (c : FrameConn) (h : Host) : Prop :=
  ∃ frame fconn host, c.readFrame h = some (some frame, fconn, host) ∧
    frame.dataType = frameDataTypeDataMdr ∧ fconn.CallsWrite env.heap host (ackFrame frame)

/-- A call that is told not to write does: it sends the first request again, or it gets as far
as reading and acknowledges a data frame. -/
def WritesUnasked (env : Env) (now : Timespec) (readable writable : Bool) (s : State) : Prop :=
  writable = false ∧
    (SendWrites env now false s ∨
      readable = true ∧ ∃ t, AtRead env now false s t ∧ AckWrites env t.conn.fconn t.host)

section Flags

open SocketCall

variable {env : Env} {now : Timespec} {readable writable : Bool} {s t : State} {c : FrameConn}
  {h : Host} {result : Int}

theorem sendPartCalls_of_due {head : Request} {rest : List Request}
    (first : s.conn.queue.requests = head :: rest) (due : WriteDue now writable head) :
    sendPartCalls env now writable s = s.conn.fconn.writeFrameCalls env.heap s.host head.frame := by
  unfold WriteDue at due
  unfold sendPartCalls
  rw [first]
  dsimp only
  split <;> rename_i attempts
  · rw [if_pos attempts] at due
    rw [if_pos due]
  · rw [if_neg attempts] at due
    rw [if_pos due.1, if_neg due.2]

theorem sendPartCalls_of_idle (idle : ∀ head rest, s.conn.queue.requests = head :: rest →
    ¬ WriteDue now writable head) : sendPartCalls env now writable s = [] := by
  unfold sendPartCalls
  dsimp only
  split
  · rfl
  rename_i head rest first
  have notDue := idle head rest first
  unfold WriteDue at notDue
  split <;> rename_i attempts
  · rw [if_pos attempts] at notDue
    exact if_neg notDue
  rw [if_neg attempts] at notDue
  split
  · rename_i late
    rw [if_pos (Classical.not_not.mp fun again => notDue ⟨late, again⟩)]
  · rfl

/-- The send half calls `write` for a first request that is due. -/
theorem anyWrite_sendPartCalls :
    AnyWrite (sendPartCalls env now writable s) ↔ SendWrites env now writable s := by
  by_cases due : ∃ head rest, s.conn.queue.requests = head :: rest ∧ WriteDue now writable head
  · obtain ⟨head, rest, first, due⟩ := due
    rw [sendPartCalls_of_due first due, FrameConn.anyWrite_writeFrameCalls]
    refine ⟨fun calls => ⟨head, rest, first, due, calls⟩, ?_⟩
    rintro ⟨head', rest', first', -, calls⟩
    rw [first] at first'
    cases first'
    exact calls
  · rw [sendPartCalls_of_idle fun head rest first is => due ⟨head, rest, first, is⟩]
    refine iff_of_false not_anyWrite_nil ?_
    exact fun ⟨head, rest, first, is, _⟩ => due ⟨head, rest, first, is⟩

/-- Behind the read `write` is called for an ACK. -/
theorem anyWrite_receivePartCalls :
    AnyWrite (receivePartCalls env c h) ↔ AckWrites env c h := by
  unfold receivePartCalls
  rw [anyWrite_append, or_iff_right (FrameConn.not_anyWrite_readFrameCalls c h)]
  split <;> rename_i read
  · rename_i frame fconn host
    unfold receiveFrameCalls
    have only : AckWrites env c h ↔ frame.dataType = frameDataTypeDataMdr ∧
        fconn.CallsWrite env.heap host (ackFrame frame) := by
      refine ⟨?_, fun ⟨isData, calls⟩ => ⟨frame, fconn, host, read, isData, calls⟩⟩
      rintro ⟨frame', fconn', host', read', both⟩
      rw [read] at read'
      cases read'
      exact both
    rw [only]
    split <;> rename_i isAck
    · refine iff_of_false not_anyWrite_nil fun ⟨isData, _⟩ => ?_
      rw [isAck] at isData
      cases isData
    split <;> rename_i isData
    · rw [FrameConn.anyWrite_writeFrameCalls, and_iff_right isData]
    · exact iff_of_false not_anyWrite_nil fun both => isData both.1
  · refine iff_of_false not_anyWrite_nil ?_
    rintro ⟨frame, fconn, host, found, -⟩
    exact read frame fconn host found

/-- Without the flush, `write` is called by the send half and by what follows the read. -/
theorem anyWrite_socketCalls : AnyWrite (socketCalls env now readable false s) ↔
    WritesUnasked env now readable false s := by
  have send : AnyWrite (sendPartCalls env now false s) ↔ SendWrites env now false s :=
    anyWrite_sendPartCalls
  simp only [socketCalls, flushPartCalls, flushPart, Bool.false_eq_true, if_false, List.nil_append,
    Int.lt_irrefl, anyWrite_append, send, WritesUnasked, true_and]
  refine or_congr_right ?_
  simp only [atRead_iff]
  split <;> rename_i run
  · refine iff_of_false not_anyWrite_nil ?_
    rintro ⟨-, t, sent, -⟩
    rw [run] at sent
    cases sent
  · rename_i sent t
    obtain rfl | rfl := sendPart_result run
    · simp only [Int.lt_irrefl, if_false]
      cases readable with
      | false =>
        refine iff_of_false not_anyWrite_nil ?_
        rintro ⟨isReadable, -⟩
        cases isReadable
      | true =>
        simp only [if_true, true_and, anyWrite_receivePartCalls]
        refine ⟨fun acks => ⟨t, run, acks⟩, ?_⟩
        rintro ⟨t', run', acks⟩
        rw [run] at run'
        cases run'
        exact acks
    · refine iff_of_false not_anyWrite_nil ?_
      rintro ⟨-, t', run', -⟩
      rw [run] at run'
      cases run'

/-- Before the read, and without one, `read` is not called. -/
theorem read_not_mem_socketCalls (n : Nat) :
    .read n ∉ socketCalls env now false writable s := by
  have flush (s : State) : .read n ∉ flushPartCalls writable s := by
    unfold flushPartCalls
    split
    · exact FrameConn.read_not_mem_flushWriteLoopCalls n
    · exact List.not_mem_nil
  have send (s : State) : .read n ∉ sendPartCalls env now writable s := by
    by_cases due : ∃ head rest, s.conn.queue.requests = head :: rest ∧ WriteDue now writable head
    · obtain ⟨head, rest, first, due⟩ := due
      rw [sendPartCalls_of_due first due]
      exact FrameConn.read_not_mem_writeFrameCalls n
    · rw [sendPartCalls_of_idle fun head rest first is => due ⟨head, rest, first, is⟩]
      exact List.not_mem_nil
  unfold socketCalls
  rw [List.mem_append, not_or]
  refine ⟨flush s, ?_⟩
  split
  · exact List.not_mem_nil
  split
  · exact List.not_mem_nil
  rw [List.mem_append, not_or]
  refine ⟨send _, ?_⟩
  split
  · exact List.not_mem_nil
  · rw [if_neg Bool.false_ne_true, ite_self]
    exact List.not_mem_nil

end Flags

/-! ## The calls of one that returns -/

section Used

variable {env : Env} {now : Timespec} {readable writable : Bool} {s t : State} {result : Int}

/-- What does not see the outcomes of the writes does not use them. -/
theorem writes_of_hidden {f : State → Option State}
    (commutes : ∀ writes, f (s.mapHost (Host.withWrites writes)) =
      (f s).map (State.mapHost (Host.withWrites writes)))
    (run : f s = some t) : t.host.writes = s.host.writes := by
  have same := commutes s.host.writes
  rw [show s.mapHost (Host.withWrites s.host.writes) = s from rfl, run] at same
  exact congrArg (fun t => t.host.writes) (Option.some.inj same)

/-- A packet is made of a frame without a `write`. -/
theorem Packet.fromFrame_writes {heap : Heap} {frame : Frame} {h h' : Host}
    {packet : Option Packet} (run : Packet.fromFrame heap frame h = some (packet, h')) :
    h'.writes = h.writes := by
  have same := Packet.fromFrame_hidden (Host.hidden_withWrites h.writes) heap frame h
  rw [show Host.withWrites h.writes h = h from rfl, run] at same
  exact congrArg (fun out => out.2.writes) (Option.some.inj same)

theorem flushPart_used (run : flushPart writable s = some (result, t)) :
    s.host.Used t.host (flushPartCalls writable s) := by
  obtain ⟨rfl, -, rfl⟩ | ⟨flushed, fconn, host, rfl, flush, rfl, -⟩ := flushPart_cases run
  · exact .of_same rfl
  · exact FrameConn.flushWriteLoop_used flush

/-- The write of the first request uses its outcomes, and giving it up uses none. -/
theorem sendPart_used (run : sendPart env now writable s = some (result, t)) :
    s.host.Used t.host (sendPartCalls env now writable s) := by
  rcases sendPart_cases run with ⟨head, rest, first, due, call⟩ | ⟨idle, -, same⟩
  · obtain ⟨written, wrote, -⟩ := transmit_host call
    rw [sendPartCalls_of_due first due]
    exact FrameConn.writeFrame_used wrote
  · rw [sendPartCalls_of_idle idle]
    refine .of_same ?_
    rcases same with rfl | ⟨head, rest, -, -, -, -, gaveUp⟩
    · rfl
    · exact writes_of_hidden (f := giveUp env now head)
        (fun writes => giveUp_hidden (Host.hidden_withWrites writes) env now head s) gaveUp

/-- The ACK is all that is written for a data frame. -/
theorem receiveData_used {frame : Frame} (run : receiveData env frame s = some (result, t)) :
    s.host.Used t.host (s.conn.fconn.writeFrameCalls env.heap s.host (ackFrame frame)) := by
  simp only [receiveData, Option.bind_eq_bind, Option.bind_eq_some_iff] at run
  obtain ⟨⟨written, fconn, host⟩, wrote, ⟨packet, host'⟩, made, run⟩ := run
  have parsed := Packet.fromFrame_writes made
  have after : t.host.writes = host.writes := by
    cases packet with
    | none =>
      cases run
      exact parsed
    | some packet =>
      simp only [Option.bind_eq_some_iff] at run
      obtain ⟨u, received, run⟩ := run
      cases run
      exact (writes_of_hidden (f := receivePacket env packet)
        (fun writes => receivePacket_hidden (Host.hidden_withWrites writes) env packet _)
        received).trans parsed
  have all := (FrameConn.writeFrame_used wrote).trans (.of_same after)
  rwa [List.append_nil] at all

theorem receiveFrame_used {frame : Frame}
    (run : receiveFrame env now frame s = some (result, t)) :
    s.host.Used t.host (receiveFrameCalls env frame s.conn.fconn s.host) := by
  unfold receiveFrame at run
  unfold receiveFrameCalls
  dsimp only at run
  split at run <;> rename_i isAck
  · rw [if_pos isAck]
    simp only [Option.bind_eq_bind, Option.bind_eq_some_iff] at run
    obtain ⟨u, received, run⟩ := run
    cases run
    refine .of_same ?_
    exact writes_of_hidden (f := receiveAck env now frame)
      (s := s.record [.received frame s.conn.queue.requests.head? now])
      (fun writes => receiveAck_hidden (Host.hidden_withWrites writes) env now frame _) received
  rw [if_neg isAck]
  split at run <;> rename_i isData
  · rw [if_pos isData]
    have used := receiveData_used run
    exact used
  · rw [if_neg isData]
    cases run
    exact .of_same rfl

theorem receivePart_used (run : receivePart env now s = some (result, t)) :
    s.host.Used t.host (receivePartCalls env s.conn.fconn s.host) := by
  unfold receivePart at run
  unfold receivePartCalls
  split at run <;> rename_i read
  · cases run
  · cases run
    rename_i c h
    have used : s.host.Used h (s.conn.fconn.readFrameCalls s.host) := FrameConn.readFrame_used read
    rw [read, List.append_nil]
    exact used
  · rw [read]
    exact (FrameConn.readFrame_used read).trans (receiveFrame_used run)

/-- **A call that returns has used an outcome for each `write` among its calls.** -/
theorem process_used (run : process env now readable writable s = some (result, t)) :
    s.host.Used t.host (socketCalls env now readable writable s) := by
  simp only [process, Option.bind_eq_bind, Option.bind_eq_some_iff] at run
  obtain ⟨⟨flushed, u⟩, flush, run⟩ := run
  simp only [socketCalls, flush]
  refine (flushPart_used flush).trans ?_
  dsimp only at run
  split at run <;> rename_i lost
  · cases run
    rw [if_pos lost]
    exact .of_same rfl
  rw [if_neg lost]
  simp only [Option.bind_eq_some_iff] at run
  obtain ⟨⟨sent, v⟩, send, run⟩ := run
  simp only [send]
  refine (sendPart_used send).trans ?_
  dsimp only at run
  split at run <;> rename_i broken
  · cases run
    rw [if_pos broken]
    exact .of_same rfl
  rw [if_neg broken]
  split at run <;> rename_i isReadable
  · rw [if_pos isReadable]
    exact receivePart_used run
  · rw [if_neg isReadable]
    cases run
    exact .of_same rfl

end Used

/-- **The flags are respected unless the first request is sent again or a data frame read.**
Neither the retransmission nor the ACK asks whether the socket is writable. -/
theorem respectsAvailability_iff (env : Env) (now : Timespec) (readable writable : Bool)
    (s : State) : RespectsAvailability env now readable writable s ↔
      ¬ WritesUnasked env now readable writable s := by
  constructor
  · rintro respects unasked
    obtain rfl := unasked.1
    obtain ⟨bytes, isIn⟩ := anyWrite_socketCalls.mpr unasked
    exact respects.noWrite rfl bytes isIn
  · intro asked
    constructor
    · rintro rfl bytes isIn
      exact asked (anyWrite_socketCalls.mp ⟨bytes, isIn⟩)
    · rintro rfl n
      exact read_not_mem_socketCalls n

/-- A request is sent and not answered: it is sent again although the socket takes nothing. -/
theorem not_respectsAvailability_retransmission :
    ∃ s, run Env.idle [.user powerOff, .process ⟨0, 0⟩ false true]
        (.start .fresh (.listing [] [.wrote 100, .wrote 100])) = some s ∧
      ¬ RespectsAvailability Env.idle ⟨5, 0⟩ false false s := by
  obtain ⟨s, ran, wrote⟩ := (Option.any_eq_true _ _).mp (show (run Env.idle
    [.user powerOff, .process ⟨0, 0⟩ false true]
    (.start .fresh (.listing [] [.wrote 100, .wrote 100]))).any
    (fun s => SocketCall.write
      [0x3e, 0x0c, 0, 0, 0, 0, 3, 0x22, 0, 1, 0x32, 0x3c] ∈
        socketCalls Env.idle ⟨5, 0⟩ false false s) = true by decide +kernel)
  exact ⟨s, ran, fun respects => respects.noWrite rfl _ (of_decide_eq_true wrote)⟩

end Libmdr
