import Libmdr.Device.Origin
import Libmdr.PacketConn.Liveness

/-!
# Every operation ends

A device on a connection that ends its requests answers its operations. What an operation asks for
is short enough to be written, whatever its arguments; so as many turns as the queue needs call all
records back. An operation makes one request, when it is called. Only `mdr_device_init` makes a
second one, when the first is called back, and needs another round.
-/

namespace Libmdr
set_option autoImplicit false

/-! ## What a device asks for is short -/

/-- No request of `device.c` is longer than a count and 255 elements behind the inquired type and
a preset. -/
theorem DeviceRequest.Proper.short {request : DeviceRequest} (proper : request.Proper)
    {layouts : List Layout} (isLayouts : request.packet.layouts = some layouts) :
    ∀ layout ∈ layouts, layout.size ≤ 258 := by
  rcases proper with ⟨operation, supported, asks⟩ | rfl
  · cases operation with
    | init | getModelName | getFwVersion | getSeriesAndColor =>
      cases asks
      cases isLayouts
      decide
    | disableNcasm | enableNoiseCancelling | enableAmbientSoundMode level voice =>
      obtain ⟨-, asks⟩ := Option.ite_none_right_eq_some.mp asks
      split at asks <;> cases asks <;> cases isLayouts <;> simp
    | getEqCapabilities | getEqPresetAndLevels =>
      obtain ⟨-, ⟨⟩⟩ := Option.ite_none_left_eq_some.mp asks
      cases isLayouts
      simp
    | setEqPreset presetId =>
      obtain ⟨-, ⟨⟩⟩ := Option.ite_none_right_eq_some.mp asks
      cases isSpecial : supported.eqNonCustomizable <;> rw [isSpecial] at isLayouts <;>
        cases isLayouts <;> simp
    | setEqLevels numLevels levels =>
      obtain ⟨-, ⟨⟩⟩ := Option.ite_none_right_eq_some.mp asks
      obtain ⟨counted, -, isLayouts⟩ := Option.bind_eq_some_iff.mp isLayouts
      cases isLayouts
      have small := byte_toNat_le numLevels
      simp
      omega
    | settingSetActiveButtonPresets numPresets presets =>
      obtain ⟨-, ⟨⟩⟩ := Option.ite_none_right_eq_some.mp asks
      obtain ⟨counted, -, isLayouts⟩ := Option.bind_eq_some_iff.mp isLayouts
      cases isLayouts
      have small := byte_toNat_le numPresets
      simp
      omega
    | _ =>
      obtain ⟨-, ⟨⟩⟩ := Option.ite_none_right_eq_some.mp asks
      cases isLayouts
      simp
  · cases isLayouts
    decide

/-- The frame of a packet is no longer than its encoder announces. -/
theorem Packet.payloadLength_le {packet : Packet} {heap : Heap} {h h' : Host} {frame : Frame}
    {bound : Nat} (short : ∀ layouts, packet.layouts = some layouts →
      ∀ layout ∈ layouts, layout.size ≤ bound)
    (encoded : packet.toFrame heap h = some (some frame, h')) :
    frame.payloadLength.toNat ≤ bound + 2 := by
  have encodes := layouts_of_toFrame encoded
  obtain ⟨made, h₁, written, runs, isWritten, -, spec⟩ := toFrame_spec heap h encodes
  obtain ⟨rfl, -⟩ := Prod.mk.inj (Option.some.inj (runs.symm.trans encoded))
  have length := (spec frame rfl).payloadLength
  obtain ⟨layouts, isLayouts⟩ := Option.isSome_iff_exists.mp encodes
  rw [Packet.written, isLayouts, Option.bind_eq_bind, Option.bind_some] at isWritten
  obtain ⟨layout, isLast, isWritten⟩ := Option.bind_eq_some_iff.mp isWritten
  have isIn := List.mem_of_getLast? isLast
  have fills := ((packet.layouts_fills layouts isLayouts).2 layout isIn).1
  have small := short layouts isLayouts layout isIn
  cases isWritten
  rw [List.length_cons] at length
  split at length <;> omega

/-! ## Turns -/

theorem readings_filter (calls : List Call) :
    readings (calls.filter Call.IsProcess) = readings calls := by
  induction calls with
  | nil => rfl
  | cons c rest ih =>
    cases c with
    | user c => exact ih
    | process now readable writable => exact congrArg (now :: ·) ih

theorem Clocked.front {early late : List Timespec} (clocked : Clocked (early ++ late)) :
    Clocked early :=
  ⟨fun t isIn => clocked.valid t (List.mem_append_left _ isIn),
    (List.pairwise_append.mp clocked.forward).1⟩

theorem turns_filter (turn : Option Timespec) (calls : List Call) :
    turns turn (calls.filter Call.IsProcess) = turns turn calls := by
  induction calls generalizing turn with
  | nil => rfl
  | cons c rest ih =>
    cases c with
    | user c => exact ih turn
    | process now readable writable =>
      rw [List.filter_cons_of_pos rfl]
      cases writable with
      | false => exact ih turn
      | true => rw [turns, turns, ih, ih]

/-! ## Between two calls from outside -/

/-- Between two calls from outside no operation was just called, and no record just called back. -/
theorem Device.Kept.last {d : Device} (kept : d.Kept) {event : DeviceEvent}
    (last : d.log.getLast? = some event) : event.started? = none ∧ event.calledBack? = none := by
  obtain ⟨front, split⟩ := List.getLast?_eq_some_iff.mp last
  rw [Device.Kept, split] at kept
  have closed : (d.ledger none d.callbackData).opened = none := rfl
  generalize d.ledger none d.callbackData = l at kept closed
  obtain ⟨before, after, -, step, rest⟩ := kept.at_label
  cases rest
  cases step <;> first | exact ⟨rfl, rfl⟩ | cases closed

/-! ## Records are called back in time -/

namespace DeviceConn

variable {env : Env} {deviceEnv : DeviceEnv} {x x' : DeviceConn}

/-- The frames of requests fit into an empty write buffer. -/
theorem Reached.fits (reached : x.Reached env) {accepted : Request} {packet : Packet}
    (madeFor : accepted.MadeFor env (· ∈ connCalls x.device.log) packet) :
    2 * accepted.frame.payloadLength.toNat + 16 ≤ frameBufSize := by
  obtain ⟨isAsked, h, h', encoded⟩ := madeFor
  obtain ⟨event, isEvent, isCall⟩ := List.mem_filterMap.mp isAsked
  cases event with
  | requested data request =>
    obtain ⟨rfl, -, -⟩ := UserCall.makeRequest.inj (Option.some.inj isCall)
    have proper := Ledger.run_proper reached.coupled.kept isEvent
    have length := Packet.payloadLength_le (fun _ => proper.short) encoded
    have room : frameBufSize = 8192 := rfl
    omega
  | _ => cases isCall

/-- The record of a request that no longer waits was called back. -/
theorem Reached.calledBack (reached : x.Reached env) {accepted : Request}
    (isAccepted : accepted ∈ acceptedIn x.conn.log)
    (gone : accepted.handle ∉ x.conn.conn.queue.requests.map Request.handle) {data : CallbackData}
    (isRecord : data ∈ recordsIn x.device.log)
    (isAddress : accepted.callbacks.userData = data.address) :
    data ∈ calledBackIn x.device.log := by
  have sound := Ledger.sound reached.coupled.kept
  obtain ⟨fconn, host, records⟩ := reached.records
  obtain ⟨done, -, -, calls⟩ := records.served.finished (List.mem_map_of_mem isAccepted) gone
  obtain ⟨made, request, -, same⟩ := reached.coupled.made isAccepted
  have callbacks := (Prod.mk.inj same).2
  obtain ⟨call, isCall, userData⟩ :=
    accepted.callOf_isSome (congrArg Callbacks.result callbacks)
      (congrArg Callbacks.error callbacks) done.2
  have isMade : call ∈ callsTo x.conn.log accepted.handle := by
    rw [calls, isCall]
    exact List.mem_singleton_self call
  have isBack := List.mem_map_of_mem (f := Called.userData) (List.mem_of_mem_filter isMade)
  rw [reached.coupled.calls, userData, isAddress] at isBack
  obtain ⟨other, isOther, same⟩ := List.mem_map.mp isBack
  have otherRecord := sound.addressed.records.mem_iff.mp (List.mem_append_right _ isOther)
  exact sound.record_ext otherRecord isRecord same ▸ isOther

theorem recordsIn_mono {log more : List DeviceEvent} {data : CallbackData}
    (isRecord : data ∈ recordsIn log) : data ∈ recordsIn (log ++ more) := by
  rw [recordsIn_append]
  exact List.mem_append_left _ isRecord

/-- As many turns as the queue needs call back all records that there are. -/
theorem calledBack_in_time {calls later : List Call} {fconn : FrameConn} {host : Host}
    (ran : (start fconn host).run env deviceEnv calls = some x)
    (goesOn : x.run env deviceEnv later = some x')
    (clocked : Clocked (readings ((calls ++ later).filterMap Call.onConn)))
    (never : env.heap.NeverFails) (willing : x.conn.Willing)
    (enough : 5 * x.conn.conn.queue.requests.length < turns none (later.filterMap Call.onConn))
    {data : CallbackData} (isRecord : data ∈ recordsIn x.device.log) :
    data ∈ calledBackIn x'.device.log := by
  obtain ⟨reached, -⟩ := (reached_start env fconn host).run_grows ran
  obtain ⟨reached', more, log⟩ := reached.run_grows goesOn
  obtain ⟨request, isMade⟩ := mem_recordsIn.mp isRecord
  obtain ⟨accepted, isAccepted, isAddress⟩ :=
    reached.coupled.allAccepted never data.ticket data request isMade rfl
  by_cases waits : accepted.handle ∈ x.conn.conn.queue.requests.map Request.handle
  · obtain ⟨front, ranConn, early, -⟩ := run_conn (reached_start env fconn host) ran
    obtain ⟨back, goesConn, late, -⟩ := run_conn reached goesOn
    obtain ⟨waiting, isWaiting, sameHandle⟩ := List.mem_map.mp waits
    obtain ⟨i, isAt⟩ := List.mem_iff_getElem?.mp isWaiting
    have inside := (List.getElem?_eq_some_iff.mp isAt).1
    rw [← late, turns_filter] at enough
    rw [List.filterMap_append, ← early, ← late, ← List.filter_append, readings_filter] at clocked
    have gone := run_leaves ranConn goesConn clocked never willing isAt (fun other isOther => by
      obtain ⟨a, isAccepted, same⟩ :=
        (run_queue_inTurn ranConn).waiting other (List.mem_of_mem_take isOther)
      obtain ⟨packet, madeFor⟩ := run_requests ran a isAccepted
      have fits := reached.fits madeFor
      simp only [Request.content, Prod.mk.injEq] at same
      rwa [same.2.2.1] at fits) (by omega)
    rw [sameHandle] at gone
    obtain ⟨events, grows⟩ := run_records goesConn
    refine reached'.calledBack ?_ gone (log ▸ recordsIn_mono isRecord) isAddress
    rw [grows.log, acceptedIn_append]
    exact List.mem_append_left _ isAccepted
  · have isBack := reached.calledBack isAccepted waits isRecord isAddress
    rw [log, calledBackIn_append]
    exact List.mem_append_left _ isBack

/-! ## When requests are made -/

/-- No operation is started twice. -/
theorem started_once {front back : List DeviceEvent} {l : Ledger}
    (sound : Ledger.Sound (front ++ back) l) {ticket : Ticket} {a b : Operation}
    {callbacks others : UserCallbacks} (early : .started ticket a callbacks ∈ front) :
    .started ticket b others ∉ back := by
  intro late
  have once := sound.tickets_nodup
  rw [startedIn, List.filterMap_append, List.map_append] at once
  refine List.disjoint_of_nodup_append once (a := ticket) ?_ ?_
  · exact List.mem_map.mpr ⟨_, List.mem_filterMap.mpr ⟨_, early, rfl⟩, rfl⟩
  · exact List.mem_map.mpr ⟨_, List.mem_filterMap.mpr ⟨_, late, rfl⟩, rfl⟩

theorem started_ext {log : List DeviceEvent} {l : Ledger} (sound : Ledger.Sound log l)
    {ticket : Ticket} {a b : Operation} {callbacks others : UserCallbacks}
    (isA : .started ticket a callbacks ∈ log) (isB : .started ticket b others ∈ log) : a = b := by
  obtain ⟨front, back, rfl⟩ := List.append_of_mem isA
  rcases List.mem_append.mp isB with early | late
  · exact absurd List.mem_cons_self (started_once sound early)
  · rcases List.mem_cons.mp late with same | late
    · cases same
      rfl
    · rw [List.append_cons] at sound
      exact absurd late (started_once sound (List.mem_append_right _ (List.mem_singleton_self _)))

/-- What stands last in the longer record is new, when it cannot stand last in the shorter one. -/
theorem last_new {log more : List DeviceEvent} {event : DeviceEvent}
    (last : (log ++ more).getLast? = some event) (other : log.getLast? ≠ some event) :
    event ∈ more := by
  cases more with
  | nil => exact absurd (List.append_nil log ▸ last) other
  | cons first rest =>
    rw [List.getLast?_append_of_ne_nil _ (List.cons_ne_nil _ _)] at last
    exact List.mem_of_getLast? last

/-- An operation that was called makes no other request, but for the second one of
`mdr_device_init`. -/
theorem requested_later {asked : DeviceCall → Prop} {more : List DeviceEvent} (reached : x.Reached env)
    (reached' : x'.Reached env) (sourced : Sourced asked x'.conn.log x'.device.log)
    (log : x'.device.log = x.device.log ++ more) {operation : Operation}
    {callbacks : UserCallbacks} {data : CallbackData}
    (isStarted : .started data.ticket operation callbacks ∈ x.device.log) {request : DeviceRequest}
    (isMade : .requested data request ∈ more) :
    request = Device.supportFunctionRequest ∧ ∃ first early, .calledBack first ∈ more ∧
      first.ticket = data.ticket ∧ .requested first early ∈ x'.device.log ∧
      early.resultCallback = .initResultProtocolInfo := by
  obtain ⟨front, back, rfl⟩ := List.append_of_mem isMade
  have split : x'.device.log = (x.device.log ++ front) ++ .requested data request :: back := by
    rw [log, List.append_assoc]
  rcases sourced _ _ back split with ⟨again, others, supported, last, asks⟩ |
    ⟨rfl, first, early, last, isTicket, isEarly, isFirst⟩
  · have isNew := last_new last fun isOld => by cases (reached.coupled.kept.last isOld).1
    have sound := Ledger.sound reached'.coupled.kept
    rw [log] at sound
    exact absurd (List.mem_append_left _ isNew) (started_once sound isStarted)
  · have isNew := last_new last fun isOld => by cases (reached.coupled.kept.last isOld).2
    refine ⟨rfl, first, early, List.mem_append_left _ isNew, isTicket, ?_, isFirst⟩
    rw [split]
    exact List.mem_append_left _ isEarly

/-- The first request of `mdr_device_init` belongs to its call. -/
theorem requested_first {asked : DeviceCall → Prop} (reached : x.Reached env)
    (sourced : Sourced asked x.conn.log x.device.log)
    {operation : Operation} {callbacks : UserCallbacks} {data : CallbackData}
    (isStarted : .started data.ticket operation callbacks ∈ x.device.log) {request : DeviceRequest}
    (isMade : .requested data request ∈ x.device.log)
    (isFirst : request.resultCallback = .initResultProtocolInfo) : operation = .init := by
  obtain ⟨front, back, split⟩ := List.append_of_mem isMade
  rw [split] at sourced
  obtain ⟨others, last⟩ := sourced.first isFirst
  have isInit : .started data.ticket .init others ∈ x.device.log :=
    split ▸ List.mem_append_left _ (List.mem_of_getLast? last)
  exact started_ext (Ledger.sound reached.coupled.kept) isStarted isInit

/-! ## Every operation ends -/

/-- **Every operation but `mdr_device_init` is answered.** From any state that a device has reached,
with nothing in the write buffer, a socket that accepts what it is offered and memory for the packet
connection: when process is called, allowed to write, more than five times for each request in the
queue, more than a second apart, an operation that has passed its gate with both callbacks has had
one of them called, once. What arrives, what allocations of the device fail, other calls in
between, and what user code does in callbacks are arbitrary. -/
theorem operation_ends {calls later : List Call} {fconn : FrameConn} {host : Host}
    (ran : (start fconn host).run env deviceEnv calls = some x)
    (goesOn : x.run env deviceEnv later = some x')
    (clocked : Clocked (readings ((calls ++ later).filterMap Call.onConn)))
    (never : env.heap.NeverFails) (willing : x.conn.Willing) {ticket : Ticket}
    {operation : Operation} {callbacks : UserCallbacks}
    (isStarted : .started ticket operation callbacks ∈ x.device.log) (notInit : operation ≠ .init)
    (result : callbacks.result ≠ none) (error : callbacks.error ≠ none)
    (enough : 5 * x.conn.conn.queue.requests.length < turns none (later.filterMap Call.onConn)) :
    AnsweredOnce x'.device.log ticket callbacks := by
  obtain ⟨reached, -⟩ := (reached_start env fconn host).run_grows ran
  obtain ⟨reached', more, log⟩ := reached.run_grows goesOn
  have whole : (start fconn host).run env deviceEnv (calls ++ later) = some x' := by
    rw [run, List.foldlM_append]
    exact Option.bind_eq_some_iff.mpr ⟨x, ran, goesOn⟩
  have sourced := (run_sourced whole).2.record
  have isStarted' : .started ticket operation callbacks ∈ x'.device.log :=
    log ▸ List.mem_append_left _ isStarted
  refine ((Ledger.sound reached'.coupled.kept).answeredOnce_iff rfl
    (List.mem_filterMap.mpr ⟨_, isStarted', rfl⟩) result error).mpr ?_
  rintro data isRecord rfl
  rw [log, recordsIn_append] at isRecord
  rcases List.mem_append.mp isRecord with isOld | isNew
  · exact calledBack_in_time ran goesOn clocked never willing enough isOld
  · obtain ⟨request, isMade⟩ := mem_recordsIn.mp isNew
    obtain ⟨-, first, early, -, isTicket, isEarly, isFirst⟩ :=
      requested_later reached reached' sourced log isStarted isMade
    rw [← isTicket] at isStarted'
    exact absurd (requested_first reached' sourced isStarted' isEarly isFirst) notInit

/-- `operation_ends` on a model name that is never sent: the error callback is called. -/
theorem operation_ends_model_name :
    let turn (seconds : Int) : Call := .process ⟨seconds, 0⟩ false true
    ∃ x x', (start .fresh (.listing []
        [.wrote 100, .err eintr, .wrote 5, .wrote 9, .wrote 100])).run .idle .idle
        [.user (.request .getModelName .both)] = some x ∧
      x.run .idle .idle [turn 0, turn 2, turn 4, turn 6, turn 8, turn 10] = some x' ∧
      AnsweredOnce x'.device.log 0 .both := by
  intro turn
  obtain ⟨x, ran, shown⟩ := (Option.any_eq_true _ _).mp (show ((start .fresh
      (.listing [] [.wrote 100, .err eintr, .wrote 5, .wrote 9, .wrote 100])).run .idle .idle
      [.user (.request .getModelName .both)]).any
    (fun x => (x.run .idle .idle [turn 0, turn 2, turn 4, turn 6, turn 8, turn 10]).any fun _ =>
      decide (.started 0 .getModelName .both ∈ x.device.log ∧ x.conn.conn.fconn.writeBuf = [] ∧
        x.conn.host.writes = [.wrote 100, .err eintr, .wrote 5, .wrote 9, .wrote 100] ∧
        x.conn.conn.queue.requests.length = 1)) = true by decide +kernel)
  obtain ⟨x', goesOn, shown⟩ := (Option.any_eq_true _ _).mp shown
  obtain ⟨isStarted, drained, writes, length⟩ := of_decide_eq_true shown
  have willing : x.conn.Willing := ⟨drained, by rw [writes]; simp [WriteOutcome.Accepts]⟩
  exact ⟨x, x', ran, goesOn, operation_ends ran goesOn ⟨by decide, by decide⟩ (fun _ => rfl)
    willing isStarted (by decide) (by decide) (by decide) (by rw [length]; decide)⟩

/-- **`mdr_device_init` is answered.** It is answered after two such rounds: one for the queue in
which its first request waits, and one for the queue that there is then. -/
theorem init_ends {calls first second : List Call} {fconn : FrameConn} {host : Host}
    {x y z : DeviceConn} (ran : (start fconn host).run env deviceEnv calls = some x)
    (goesOn : x.run env deviceEnv first = some y) (goesOn' : y.run env deviceEnv second = some z)
    (clocked : Clocked (readings ((calls ++ first ++ second).filterMap Call.onConn)))
    (never : env.heap.NeverFails) (willing : x.conn.Willing) {ticket : Ticket}
    {callbacks : UserCallbacks} (isStarted : .started ticket .init callbacks ∈ x.device.log)
    (result : callbacks.result ≠ none) (error : callbacks.error ≠ none)
    (enough : 5 * x.conn.conn.queue.requests.length < turns none (first.filterMap Call.onConn))
    (enough' : 5 * y.conn.conn.queue.requests.length < turns none (second.filterMap Call.onConn)) :
    AnsweredOnce z.device.log ticket callbacks := by
  have ranLater : (start fconn host).run env deviceEnv (calls ++ first) = some y := by
    rw [run, List.foldlM_append]
    exact Option.bind_eq_some_iff.mpr ⟨x, ran, goesOn⟩
  have whole : (start fconn host).run env deviceEnv (calls ++ first ++ second) = some z := by
    rw [run, List.foldlM_append]
    exact Option.bind_eq_some_iff.mpr ⟨y, ranLater, goesOn'⟩
  obtain ⟨reached, -⟩ := (reached_start env fconn host).run_grows ran
  obtain ⟨reachedY, more, log⟩ := reached.run_grows goesOn
  obtain ⟨reachedZ, new, log'⟩ := reachedY.run_grows goesOn'
  have sourced := (run_sourced whole).2.record
  have sound := Ledger.sound reachedZ.coupled.kept
  have willingY : y.conn.Willing := by
    obtain ⟨asked, runs, -, -⟩ := run_conn reached goesOn
    exact (walk_willing env).run (fun _ _ _ => trivial) (fun _ _ _ => trivial) runs willing
  have clockedY := clocked
  rw [List.filterMap_append, readings, List.filterMap_append] at clockedY
  have isStartedY : .started ticket .init callbacks ∈ y.device.log :=
    log ▸ List.mem_append_left _ isStarted
  have isStartedZ : .started ticket .init callbacks ∈ z.device.log :=
    log' ▸ List.mem_append_left _ isStartedY
  refine (sound.answeredOnce_iff rfl (List.mem_filterMap.mpr ⟨_, isStartedZ, rfl⟩) result
    error).mpr ?_
  rintro data isRecord rfl
  rw [log', recordsIn_append] at isRecord
  rcases List.mem_append.mp isRecord with isOld | isNew
  · exact calledBack_in_time ranLater goesOn' clocked never willingY enough' isOld
  · -- The record of the first request was called back in the first round, and not again.
    obtain ⟨request, isMade⟩ := mem_recordsIn.mp isNew
    obtain ⟨-, early, protocolInfo, isBack, isTicket, isEarly, isFirst⟩ :=
      requested_later reachedY reachedZ sourced log' isStartedY isMade
    rw [log', log, List.append_assoc] at isEarly
    rw [← isTicket] at isStarted
    rcases List.mem_append.mp isEarly with isHere | isLater
    · have isBackY := calledBack_in_time ran goesOn clockedY.front never willing enough
        (mem_recordsIn.mpr ⟨_, isHere⟩)
      have once : (calledBackIn z.device.log).Nodup :=
        (List.nodup_append.mp (sound.addressed.records.nodup_iff.mpr
          (.of_map _ sound.addresses_nodup))).2.1
      rw [log', calledBackIn_append] at once
      have isBackNew : early ∈ calledBackIn new := List.mem_filterMap.mpr ⟨_, isBack, rfl⟩
      exact absurd isBackNew (List.disjoint_of_nodup_append once isBackY)
    · rw [log, List.append_assoc] at log'
      obtain ⟨rfl, -⟩ := requested_later reached reachedZ sourced log' isStarted isLater
      cases isFirst

/-- `init_ends` on a peer that hears the third copy of the first request, answers it, and answers
the second request behind its third copy. -/
theorem init_ends_late_replies :
    let env : Env := { Env.idle with
      script := fun k => if k = 0 then connCalls [.requested ⟨1, 0, .both⟩
        Device.supportFunctionRequest] else [] }
    let process (tenths : Int) (readable : Bool) : Call :=
      .process ⟨tenths / 10, tenths % 10 * 100000000⟩ readable true
    let first := [process 0 false, process 20 false, process 40 true, process 45 true,
      process 60 false, process 80 false, process 100 false]
    let second := [process 102 true, process 104 true, process 120 false, process 140 false,
      process 160 false, process 180 false, process 200 false]
    ∃ x y z, (start .fresh (.listing
        [.data [0x3e, 1, 1, 0, 0, 0, 0, 2, 0x3c],
          .data [0x3e, 12, 0, 0, 0, 0, 4, 1, 0, 1, 2, 20, 0x3c],
          .data [0x3e, 1, 0, 0, 0, 0, 0, 1, 0x3c],
          .data [0x3e, 12, 1, 0, 0, 0, 4, 7, 0, 1, 0x21, 58, 0x3c]]
        (List.replicate 8 (.wrote 100)))).run env .idle [.user (.request .init .both)] = some x ∧
      x.run env .idle first = some y ∧ y.run env .idle second = some z ∧
      AnsweredOnce z.device.log 0 .both := by
  intro env process first second
  obtain ⟨x, ran, shown⟩ := (Option.any_eq_true _ _).mp (show ((start .fresh (.listing
        [.data [0x3e, 1, 1, 0, 0, 0, 0, 2, 0x3c],
          .data [0x3e, 12, 0, 0, 0, 0, 4, 1, 0, 1, 2, 20, 0x3c],
          .data [0x3e, 1, 0, 0, 0, 0, 0, 1, 0x3c],
          .data [0x3e, 12, 1, 0, 0, 0, 4, 7, 0, 1, 0x21, 58, 0x3c]]
        (List.replicate 8 (.wrote 100)))).run env .idle [.user (.request .init .both)]).any
    (fun x => (x.run env .idle first).any fun y => (y.run env .idle second).any fun _ =>
      decide (.started 0 .init .both ∈ x.device.log ∧ x.conn.conn.fconn.writeBuf = [] ∧
        x.conn.host.writes = List.replicate 8 (.wrote 100) ∧
        x.conn.conn.queue.requests.length = 1 ∧ y.conn.conn.queue.requests.length = 1)) = true
    by decide +kernel)
  obtain ⟨y, goesOn, shown⟩ := (Option.any_eq_true _ _).mp shown
  obtain ⟨z, goesOn', shown⟩ := (Option.any_eq_true _ _).mp shown
  obtain ⟨isStarted, drained, writes, length, length'⟩ := of_decide_eq_true shown
  have willing : x.conn.Willing := ⟨drained, by rw [writes]; simp [WriteOutcome.Accepts]⟩
  exact ⟨x, y, z, ran, goesOn, goesOn', init_ends ran goesOn goesOn' ⟨by decide, by decide⟩
    (fun _ => rfl) willing isStarted (by decide) (by decide) (by rw [length]; decide)
    (by rw [length']; decide)⟩

end DeviceConn

end Libmdr
