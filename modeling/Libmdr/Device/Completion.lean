import Libmdr.Device.Refinement
import Libmdr.Device.Run
import Libmdr.PacketConn.Answers

/-!
# Every operation is answered once

Along a run the device and its packet connection agree on what was asked for and on what was
called back. At the end every request that the connection accepted was called back once, so an
operation is answered unless a request that was made for it was not accepted.
-/

namespace Libmdr
set_option autoImplicit false

theorem connCalls_append (xs ys : List DeviceEvent) :
    connCalls (xs ++ ys) = connCalls xs ++ connCalls ys := List.filterMap_append

/-- The requests that the device asked for. -/
def askedIn (events : List DeviceEvent) : List (ReplySpecifier × Callbacks) :=
  (connCalls events).filterMap UserCall.asked

theorem askedIn_append (xs ys : List DeviceEvent) :
    askedIn (xs ++ ys) = askedIn xs ++ askedIn ys := by
  rw [askedIn, connCalls_append, List.filterMap_append]
  rfl

/-- A request with this record was made. -/
theorem asked_cases {events : List DeviceEvent} {asked : ReplySpecifier × Callbacks}
    (isAsked : asked ∈ askedIn events) :
    ∃ data request, .requested data request ∈ events ∧
      asked = (request.replySpecifier,
        { result := some request.resultCallback.fnPtr, error := some errorCallbackPassthroughPtr,
          userData := data.address }) := by
  obtain ⟨c, isCall, isAsked⟩ := List.mem_filterMap.mp isAsked
  obtain ⟨event, isEvent, isCall⟩ := List.mem_filterMap.mp isCall
  cases event with
  | requested data request =>
    cases isCall
    cases isAsked
    exact ⟨data, request, isEvent, rfl⟩
  | subscribed | removed =>
    cases isCall
    cases isAsked
  | _ => cases isCall

/-! ## A device and the record of its connection -/

/-- The packet connection accepted requests that the device asked for, and called back with the
records that the device was called back with. -/
structure Coupled (env : Env) (past : List Event) (d : Device) : Prop where
  kept : d.Kept
  asked : env.Accepts ((acceptedIn past).map Request.asked) (askedIn d.log)
  calls : (callsIn past).map Called.userData =
    (calledBackIn d.log).map CallbackData.address

namespace Coupled

variable {env : Env} {past : List Event} {d d' : Device}

/-- A request that was accepted is one that the device made. -/
theorem made (coupled : Coupled env past d) {accepted : Request} (isAccepted : accepted ∈ acceptedIn past) :
    ∃ data request, .requested data request ∈ d.log ∧ accepted.asked = (request.replySpecifier,
      { result := some request.resultCallback.fnPtr, error := some errorCallbackPassthroughPtr,
        userData := data.address }) :=
  asked_cases (coupled.asked.sublist.subset (List.mem_map_of_mem isAccepted))

theorem expected (coupled : Coupled env past d) {call : Called} (isExpected : Expected past call) :
    ∃ data request, .requested data request ∈ d.log ∧ request.Expects data call := by
  obtain ⟨accepted, isAccepted, -, userData, fn, arg⟩ := isExpected
  obtain ⟨data, request, isMade, same⟩ := coupled.made isAccepted
  obtain ⟨spec, callbacks⟩ := Prod.mk.inj same
  rw [callbacks] at userData fn
  rw [spec] at arg
  refine ⟨data, request, isMade, userData.symm, ?_, ?_⟩
  · intro packet isResult
    rw [isResult] at fn
    exact (Option.some.inj fn).symm
  · intro packet isResult
    rw [isResult] at arg
    exact arg

/-- An event that is no callback and accepts nothing. -/
theorem quiet (coupled : Coupled env past d) {event : Event} (isQuiet : event.IsQuiet = true) :
    Coupled env (past ++ [event]) d := by
  have accepts : acceptedIn [event] = [] := by cases event <;> first | rfl | cases isQuiet
  have noCall : callsIn [event] = [] := by cases event <;> first | rfl | cases isQuiet
  refine ⟨coupled.kept, ?_, ?_⟩
  · rw [acceptedIn_append, accepts, List.append_nil]
    exact coupled.asked
  · rw [callsIn_append, noCall, List.append_nil]
    exact coupled.calls

/-- The device runs, and some of the requests that it asks for are accepted. -/
theorem runs (coupled : Coupled env past d) (kept : d'.Kept) {events : List DeviceEvent}
    {more : List Event} (log : d'.log = d.log ++ events)
    (asked : env.Accepts ((acceptedIn more).map Request.asked) (askedIn events))
    (calls : (callsIn more).map Called.userData =
      (calledBackIn events).map CallbackData.address) : Coupled env (past ++ more) d' := by
  refine ⟨kept, ?_, ?_⟩
  · rw [acceptedIn_append, List.map_append, log, askedIn_append]
    exact coupled.asked.append asked
  · rw [callsIn_append, List.map_append, log, calledBackIn_append, List.map_append, coupled.calls,
      calls]

end Coupled

/-! ## Following the packet connection -/

section

variable {env : Env} {deviceEnv : DeviceEnv} {past : List Event} {d d' : Device}

/-- Accepted requests are passed over. -/
theorem follow_accepted (new : List Request) (events : List Event) (k : Nat) :
    d.follow env deviceEnv (new.map .accepted ++ events) k = d.follow env deviceEnv events k := by
  induction new with
  | nil => rfl
  | cons request rest ih => exact ih

/-- By induction on the record of the connection, a callback with the requests behind it at
a time. -/
theorem follow_coupled {events : List Event} {k k' : Nat} (scripted : Scripted env k events k')
    (coupled : Coupled env past d)
    (expected : ∀ front call back, past ++ events = front ++ .called call :: back →
      Expected front call)
    (run : d.follow env deviceEnv events k = some d') : Coupled env (past ++ events) d' := by
  induction scripted generalizing past d with
  | nil =>
    cases run
    rw [List.append_nil]
    exact coupled
  | @quiet k k' event events isQuiet _ ih =>
    have notCallback : event.IsCallback = false := by cases event <;> first | rfl | cases isQuiet
    rw [Device.follow, notCallback] at run
    rw [List.append_cons] at expected ⊢
    exact ih (coupled.quiet isQuiet) expected run
  | @callback k k' event events new isCallback asked _ ih =>
    rw [Device.follow, if_pos isCallback] at run
    obtain ⟨e, called, run⟩ := Option.bind_eq_some_iff.mp run
    obtain ⟨asks, run⟩ := Option.ite_none_right_eq_some.mp run
    rw [follow_accepted] at run
    obtain ⟨kept, more, log, calls⟩ := Device.callback_kept coupled.kept
      (Device.userCode_keeps deviceEnv _) (fun call isCall => by
        subst isCall
        exact coupled.expected (expected past call _ rfl)) called
    rw [log, List.drop_left] at asks
    have accepts : acceptedIn (event :: new.map .accepted) = new := by
      rw [← List.singleton_append, acceptedIn_append, acceptedIn_map_accepted]
      cases event <;> first | rfl | cases isCallback
    have callsOnly : callsIn (event :: new.map .accepted) = callsIn [event] := by
      rw [← List.singleton_append, callsIn_append, callsIn_map_accepted, List.append_nil]
    have next : Coupled env (past ++ event :: new.map .accepted) e := by
      refine coupled.runs kept log ?_ (by rw [callsOnly, calls])
      rw [accepts, askedIn, asks]
      exact asked
    rw [← List.cons_append, ← List.append_assoc] at expected ⊢
    exact ih next expected run

theorem removed_leads (nodes : List DeviceSubscription) (d : Device) :
    Leads none d none (nodes.foldl (fun d node => d.record (.removed node.handle)) d) := by
  induction nodes generalizing d with
  | nil => exact .refl none d
  | cons node rest ih =>
    have first : Leads none d none (d.record (.removed node.handle)) :=
      .event (fun held => .removed _ _) rfl rfl rfl rfl
    exact first.trans (ih _)

theorem removeSubscriptions_leads (run : d.removeSubscriptions = some d') :
    Leads none d none d' := by
  obtain ⟨nodes, -, run⟩ := Option.bind_eq_some_iff.mp run
  cases run
  have leads := removed_leads nodes
    { d with subscriptions := if nodes = [] then some [] else none }
  exact leads

/-- The device is called from outside, and the packet connection makes the calls. -/
theorem passOn_coupled {x x' : DeviceConn} (coupled : Coupled env x.conn.log x.device)
    (leads : Leads none x.device none d') (run : x.passOn env d' = some x') :
    Coupled env x'.conn.log x'.device := by
  obtain ⟨events, log, noCall, -, -⟩ := id leads
  obtain ⟨conn, made, run⟩ := Option.bind_eq_some_iff.mp run
  cases run
  rw [log, List.drop_left] at made
  obtain ⟨new, accepted, -, asked⟩ := userCalls_asked made
  rw [accepted]
  refine coupled.runs (coupled.kept.leads leads) log ?_ ?_
  · rw [acceptedIn_map_accepted]
    exact asked
  · rw [callsIn_map_accepted, noCall]
    rfl

theorem callBack_coupled {x x' : DeviceConn} {conn : State}
    (coupled : Coupled env x.conn.log x.device) (ran : Ran env x.conn conn)
    (expected : ∀ front call back, conn.log = front ++ .called call :: back → Expected front call)
    (run : x.callBack env deviceEnv conn = some x') : Coupled env x'.conn.log x'.device := by
  obtain ⟨device, followed, run⟩ := Option.bind_eq_some_iff.mp run
  cases run
  obtain ⟨events, log, scripted⟩ := ran
  rw [log, List.drop_left] at followed
  rw [log] at expected ⊢
  exact follow_coupled scripted coupled expected followed

end

/-! ## Runs -/

namespace DeviceConn

/-- What holds between two calls from outside. -/
structure Reached (env : Env) (x : DeviceConn) : Prop where
  records : ∃ fconn host, Records (State.start fconn host) false x.conn.log x.conn false
  coupled : Coupled env x.conn.log x.device

variable {env : Env} {deviceEnv : DeviceEnv} {x x' : DeviceConn}

theorem reached_start (env : Env) (fconn : FrameConn) (host : Host) :
    (start fconn host).Reached env where
  records := ⟨fconn, host, .refl _ _⟩
  coupled := ⟨Device.kept_new, .refl _ _, rfl⟩

theorem Reached.passOn {device : Device} (reached : x.Reached env)
    (leads : Leads none x.device none device) (run : x.passOn env device = some x') :
    x'.Reached env := by
  refine ⟨?_, passOn_coupled reached.coupled leads run⟩
  obtain ⟨fconn, host, records⟩ := reached.records
  obtain ⟨conn, made, run⟩ := Option.bind_eq_some_iff.mp run
  cases run
  obtain ⟨new, added⟩ := userCalls_added made
  have whole := records.trans added.records
  rw [← added.log] at whole
  exact ⟨fconn, host, whole⟩

/-- The packet connection runs; it may be closed then. -/
theorem Reached.callBack {conn : State} {events : List Event} {closing : Bool}
    (reached : x.Reached env) (later : Records x.conn false events conn closing)
    (ran : Ran env x.conn conn) (run : x.callBack env deviceEnv conn = some x') :
    (∃ fconn host, Records (State.start fconn host) false x'.conn.log x'.conn closing) ∧
      Coupled env x'.conn.log x'.device := by
  obtain ⟨fconn, host, records⟩ := reached.records
  have whole := records.trans later
  rw [← later.log] at whole
  have coupled := callBack_coupled reached.coupled ran (whole.expected rfl) run
  obtain ⟨device, followed, run⟩ := Option.bind_eq_some_iff.mp run
  cases run
  exact ⟨⟨fconn, host, whole⟩, coupled⟩

theorem Reached.call {c : Call} (reached : x.Reached env)
    (called : x.call env deviceEnv c = some x') : x'.Reached env := by
  obtain ⟨called, -⟩ := Option.filter_eq_some_iff.mp called
  cases c with
  | user c =>
    obtain ⟨device, called, run⟩ := Option.bind_eq_some_iff.mp called
    have leads := Device.call_leads (Device.userCode_keeps deviceEnv _) called
    exact reached.passOn leads run
  | process now readable writable =>
    obtain ⟨⟨result, conn⟩, processed, run⟩ := Option.bind_eq_some_iff.mp called
    obtain ⟨events, records⟩ := process_records processed
    obtain ⟨records, coupled⟩ := reached.callBack records (process_ran processed) run
    exact ⟨records, coupled⟩

theorem Reached.run {calls : List Call} (reached : x.Reached env)
    (ran : x.run env deviceEnv calls = some x') : x'.Reached env :=
  Trace.foldlM_invariant (DeviceConn.Reached env) (fun _ _ _ first reached => reached.call first) ran
    reached

/-- When the connection is closed no request waits. -/
theorem Reached.close (reached : x.Reached env) (closed : x.close env deviceEnv = some x') :
    ∃ fconn host closing, Records (State.start fconn host) false x'.conn.log x'.conn closing ∧
      x'.conn.conn.queue.requests = [] ∧ Coupled env x'.conn.log x'.device := by
  obtain ⟨device, removed, closed⟩ := Option.bind_eq_some_iff.mp closed
  obtain ⟨y, passed, closed⟩ := Option.bind_eq_some_iff.mp closed
  obtain ⟨conn, freed, run⟩ := Option.bind_eq_some_iff.mp closed
  have leads := removeSubscriptions_leads removed
  have reached := reached.passOn leads passed
  obtain ⟨events, closing, records, empty⟩ := close_records freed
  obtain ⟨⟨fconn, host, whole⟩, coupled⟩ := reached.callBack records (close_ran freed) run
  obtain ⟨device, followed, run⟩ := Option.bind_eq_some_iff.mp run
  cases run
  exact ⟨fconn, host, closing, whole, empty, coupled⟩

end DeviceConn

/-! ## Every operation is answered once -/

theorem mem_of_callsIn {log : List Event} {call : Called} (isCall : call ∈ callsIn log) :
    .called call ∈ log := by
  obtain ⟨event, isEvent, isCall⟩ := List.mem_filterMap.mp isCall
  cases event with
  | called other =>
    cases isCall
    exact isEvent
  | _ => cases isCall

/-- A request with both callbacks has one of them called, whatever its outcome. -/
theorem Request.callOf_isSome {request : Request} {result error : FnPtr}
    (isResult : request.callbacks.result = some result)
    (isError : request.callbacks.error = some error) (outcome : Outcome) :
    ∃ call, request.callOf outcome = some call ∧ call.userData = request.callbacks.userData := by
  cases outcome <;> simp [Request.callOf, isResult, isError]

/-- When no request waits, a record was called back if and only if its request was accepted. -/
theorem Coupled.calledBack_iff {env : Env} {fconn : FrameConn} {host : Host} {s : State}
    {closing : Bool} {d : Device} (coupled : Coupled env s.log d)
    (records : Records (State.start fconn host) false s.log s closing)
    (empty : s.conn.queue.requests = []) {data : CallbackData} (isRecord : data ∈ recordsIn d.log) :
    data ∈ calledBackIn d.log ↔
      ∃ accepted ∈ acceptedIn s.log, accepted.callbacks.userData = data.address := by
  have sound := Ledger.sound coupled.kept
  constructor
  · intro isBack
    have isCalled := List.mem_map_of_mem (f := CallbackData.address) isBack
    rw [← coupled.calls] at isCalled
    obtain ⟨call, isCall, isAddress⟩ := List.mem_map.mp isCalled
    obtain ⟨front, back, split⟩ := List.append_of_mem (mem_of_callsIn isCall)
    obtain ⟨accepted, isAccepted, expects⟩ := records.expected rfl front call back split
    refine ⟨accepted, ?_, expects.userData.symm.trans isAddress⟩
    rw [split, acceptedIn_append]
    exact List.mem_append_left _ isAccepted
  · rintro ⟨accepted, isAccepted, isAddress⟩
    obtain ⟨made, request, -, same⟩ := coupled.made isAccepted
    have callbacks := (Prod.mk.inj same).2
    have served := (records.accounted (accounted_start fconn host)).served
      records.numbered.increasing
    rw [empty, List.nil_append] at served
    obtain ⟨outcome, calls⟩ := served.all isAccepted
    obtain ⟨call, isCall, userData⟩ :=
      accepted.callOf_isSome (congrArg Callbacks.result callbacks)
        (congrArg Callbacks.error callbacks) outcome
    have isMade : call ∈ callsTo s.log accepted.handle := by
      rw [calls, isCall]
      exact List.mem_singleton_self call
    have isBack := List.mem_map_of_mem (f := Called.userData) (List.mem_of_mem_filter isMade)
    rw [coupled.calls, userData, isAddress] at isBack
    obtain ⟨other, isOther, same⟩ := List.mem_map.mp isBack
    have otherRecord := sound.addressed.records.mem_iff.mp (List.mem_append_right _ isOther)
    exact sound.record_ext otherRecord isRecord same ▸ isOther

/-- `mdr_packetconn_make_request` returned no NULL for the operation. -/
def DeviceConn.AllAccepted (x : DeviceConn) (ticket : Ticket) : Prop :=
  ∀ data request, .requested data request ∈ x.device.log → data.ticket = ticket →
    ∃ accepted ∈ acceptedIn x.conn.log, accepted.callbacks.userData = data.address

theorem mem_recordsIn {log : List DeviceEvent} {data : CallbackData} :
    data ∈ recordsIn log ↔ ∃ request, .requested data request ∈ log := by
  constructor
  · intro isRecord
    obtain ⟨event, isEvent, isRequested⟩ := List.mem_filterMap.mp isRecord
    cases event with
    | requested other request =>
      cases isRequested
      exact ⟨request, isEvent⟩
    | _ => cases isRequested
  · rintro ⟨request, isRequested⟩
    exact List.mem_filterMap.mpr ⟨_, isRequested, rfl⟩

/-- What a run that ends with the connection closed says about an operation. -/
theorem DeviceConn.Reached.answeredOnce_iff {env : Env} {deviceEnv : DeviceEnv} {x x' : DeviceConn}
    (reached : x.Reached env) (closed : x.close env deviceEnv = some x') {ticket : Ticket}
    {callbacks : UserCallbacks} (isStarted : (ticket, callbacks) ∈ startedIn x'.device.log)
    (result : callbacks.result ≠ none) (error : callbacks.error ≠ none) :
    AnsweredOnce x'.device.log ticket callbacks ↔ x'.AllAccepted ticket := by
  obtain ⟨fconn, host, closing, records, empty, coupled⟩ := reached.close closed
  rw [(Ledger.sound coupled.kept).answeredOnce_iff rfl isStarted result error]
  constructor
  · intro allBack data request isRequested isTicket
    have isRecord := mem_recordsIn.mpr ⟨request, isRequested⟩
    exact (coupled.calledBack_iff records empty isRecord).mp (allBack data isRecord isTicket)
  · intro allAccepted data isRecord isTicket
    obtain ⟨request, isRequested⟩ := mem_recordsIn.mp isRecord
    exact (coupled.calledBack_iff records empty isRecord).mpr
      (allAccepted data request isRequested isTicket)

/-- As long as the packet connection has memory no request is refused. -/
theorem Coupled.allAccepted {env : Env} {x : DeviceConn} (coupled : Coupled env x.conn.log x.device)
    (never : env.heap.NeverFails) (ticket : Ticket) : x.AllAccepted ticket := by
  intro data request isRequested isTicket
  have isAsked : (request.replySpecifier, _) ∈ askedIn x.device.log :=
    List.mem_filterMap.mpr ⟨_, List.mem_filterMap.mpr ⟨_, isRequested, rfl⟩, rfl⟩
  rw [← coupled.asked.all never] at isAsked
  obtain ⟨accepted, isAccepted, same⟩ := List.mem_map.mp isAsked
  exact ⟨accepted, isAccepted, congrArg Callbacks.userData (Prod.mk.inj same).2⟩

/-- Allocations that fail in `device.c` are no reason for an operation not to be answered. -/
theorem answeredOnce_of_heap {env : Env} {deviceEnv : DeviceEnv} {calls : List DeviceConn.Call}
    {fconn : FrameConn} {host : Host} {x x' : DeviceConn} (never : env.heap.NeverFails)
    (ran : (DeviceConn.start fconn host).run env deviceEnv calls = some x)
    (closed : x.close env deviceEnv = some x') {job : Job}
    (isStarted : job ∈ startedIn x'.device.log) (result : job.2.result ≠ none)
    (error : job.2.error ≠ none) : AnsweredOnce x'.device.log job.1 job.2 := by
  have reached := (DeviceConn.reached_start env fconn host).run ran
  obtain ⟨-, -, -, -, -, coupled⟩ := reached.close closed
  exact (reached.answeredOnce_iff closed isStarted result error).mpr
    (coupled.allAccepted never job.1)

/-- **An operation that is called with both callbacks is answered once, unless a request that it
makes is not accepted.** -/
theorem operation_answered_once_iff {env : Env} {deviceEnv : DeviceEnv}
    {calls : List DeviceConn.Call} {fconn : FrameConn} {host : Host} {x x' : DeviceConn}
    (ran : (DeviceConn.start fconn host).run env deviceEnv calls = some x)
    (closed : x.close env deviceEnv = some x') {ticket : Ticket} {operation : Operation}
    {callbacks : UserCallbacks} (started : .started ticket operation callbacks ∈ x'.device.log)
    (result : callbacks.result ≠ none) (error : callbacks.error ≠ none) :
    AnsweredOnce x'.device.log ticket callbacks ↔ x'.AllAccepted ticket := by
  have reached := (DeviceConn.reached_start env fconn host).run ran
  refine reached.answeredOnce_iff closed (List.mem_filterMap.mpr ⟨_, started, rfl⟩) result error

/-- `operation_answered_once_iff` on `mdr_device_init`, with the replies to both of its requests. -/
theorem init_answered_once :
    let env : Env := { Env.idle with
      script := fun k => if k = 0 then connCalls [.requested ⟨1, 0, .both⟩
        Device.supportFunctionRequest] else [] }
    let process : DeviceConn.Call := .process ⟨0, 0⟩ true true
    ∃ x x', (DeviceConn.start .fresh (.listing
        [.data [0x3e, 1, 1, 0, 0, 0, 0, 2, 0x3c],
          .data [0x3e, 12, 0, 0, 0, 0, 4, 1, 0, 1, 2, 20, 0x3c],
          .data [0x3e, 1, 0, 0, 0, 0, 0, 1, 0x3c],
          .data [0x3e, 12, 1, 0, 0, 0, 4, 7, 0, 1, 0x21, 58, 0x3c]]
        [.wrote 100, .wrote 100, .wrote 100, .wrote 100])).run env .idle
        [.user (.request .init .both), process, process, process, process] = some x ∧
      x.close env .idle = some x' ∧ AnsweredOnce x'.device.log 0 .both := by
  intro env process
  obtain ⟨x, ran, more⟩ := (Option.any_eq_true _ _).mp (show ((DeviceConn.start .fresh (.listing
        [.data [0x3e, 1, 1, 0, 0, 0, 0, 2, 0x3c],
          .data [0x3e, 12, 0, 0, 0, 0, 4, 1, 0, 1, 2, 20, 0x3c],
          .data [0x3e, 1, 0, 0, 0, 0, 0, 1, 0x3c],
          .data [0x3e, 12, 1, 0, 0, 0, 4, 7, 0, 1, 0x21, 58, 0x3c]]
        [.wrote 100, .wrote 100, .wrote 100, .wrote 100])).run env .idle
        [.user (.request .init .both), process, process, process, process]).any
      (fun x => (x.close env .idle).any fun x' =>
        .started 0 .init .both ∈ x'.device.log) = true by decide +kernel)
  obtain ⟨x', closed, started⟩ := (Option.any_eq_true _ _).mp more
  have reached := (DeviceConn.reached_start env _ _).run ran
  obtain ⟨-, -, -, -, -, coupled⟩ := reached.close closed
  exact ⟨x, x', ran, closed,
    (operation_answered_once_iff ran closed (of_decide_eq_true started) (by decide)
      (by decide)).mpr (coupled.allAccepted (fun _ => rfl) 0)⟩

/-- **A device call need not be answered**: `mdr_device_get_model_name` with no memory for
the frame of its request. -/
theorem not_every_operation_answered_once :
    ¬ ∀ (env : Env) (deviceEnv : DeviceEnv) (calls : List DeviceConn.Call) (fconn : FrameConn)
      (host : Host) (x x' : DeviceConn),
      (DeviceConn.start fconn host).run env deviceEnv calls = some x →
      x.close env deviceEnv = some x' →
      ∀ ticket operation callbacks, .started ticket operation callbacks ∈ x'.device.log →
        callbacks.result ≠ none → callbacks.error ≠ none →
        AnsweredOnce x'.device.log ticket callbacks := by
  intro always
  let env : Env := { Env.idle with heap := fun _ => none }
  obtain ⟨x, ran, more⟩ := (Option.any_eq_true _ _).mp (show ((DeviceConn.start .fresh
      (.listing [] [])).run env .idle [.user (.request .getModelName .both)]).any
    (fun x => (x.close env .idle).any fun x' =>
      .started 0 .getModelName .both ∈ x'.device.log ∧ answersOf x'.device.log 0 = []) = true by
    decide +kernel)
  obtain ⟨x', closed, shows⟩ := (Option.any_eq_true _ _).mp more
  obtain ⟨started, silent⟩ := of_decide_eq_true shows
  obtain ⟨answer, only, -⟩ := always _ _ _ _ _ _ _ ran closed _ _ _ started (by decide) (by decide)
  rw [silent] at only
  cases only

/-! ## What is left in memory -/

/-- **The records that are never freed**: in every run that ends with the connection closed, those
of the requests that the packet connection did not accept, and no others. -/
theorem record_left_iff {env : Env} {deviceEnv : DeviceEnv} {calls : List DeviceConn.Call}
    {fconn : FrameConn} {host : Host} {x x' : DeviceConn}
    (ran : (DeviceConn.start fconn host).run env deviceEnv calls = some x)
    (closed : x.close env deviceEnv = some x') (data : CallbackData) :
    data ∈ x'.device.callbackData ↔
      (∃ request, .requested data request ∈ x'.device.log) ∧
        ∀ accepted ∈ acceptedIn x'.conn.log, accepted.callbacks.userData ≠ data.address := by
  have reached := (DeviceConn.reached_start env fconn host).run ran
  obtain ⟨_, _, _, records, empty, coupled⟩ := reached.close closed
  have sound := Ledger.sound coupled.kept
  constructor
  · intro isLeft
    have isRecord := sound.addressed.records.mem_iff.mp (List.mem_append_left _ isLeft)
    refine ⟨mem_recordsIn.mp isRecord, fun accepted isAccepted same => ?_⟩
    have isBack := (coupled.calledBack_iff records empty isRecord).mpr ⟨accepted, isAccepted, same⟩
    exact (sound.held_iff isRecord).mp isLeft isBack
  · rintro ⟨isRequested, refused⟩
    have isRecord := mem_recordsIn.mpr isRequested
    refine (sound.held_iff isRecord).mpr fun isBack => ?_
    obtain ⟨accepted, isAccepted, same⟩ :=
      (coupled.calledBack_iff records empty isRecord).mp isBack
    exact refused accepted isAccepted same

/-- `record_left_iff` where the packet connection has no memory: the record of
`mdr_device_get_model_name` is left. -/
theorem record_left_iff_model_name :
    ∃ x x', (DeviceConn.start .fresh (.listing [] [])).run { Env.idle with heap := fun _ => none }
        .idle [.user (.request .getModelName .both)] = some x ∧
      x.close { Env.idle with heap := fun _ => none } .idle = some x' ∧
      (⟨0, 0, .both⟩ ∈ x'.device.callbackData ↔
        (∃ request, .requested ⟨0, 0, .both⟩ request ∈ x'.device.log) ∧
          ∀ accepted ∈ acceptedIn x'.conn.log, accepted.callbacks.userData ≠ 0) := by
  obtain ⟨x, ran, more⟩ := (Option.any_eq_true _ _).mp (show ((DeviceConn.start .fresh
      (.listing [] [])).run { Env.idle with heap := fun _ => none } .idle
      [.user (.request .getModelName .both)]).any
    (fun x => (x.close { Env.idle with heap := fun _ => none } .idle).isSome) = true by
    decide +kernel)
  obtain ⟨x', closed⟩ := Option.isSome_iff_exists.mp more
  exact ⟨x, x', ran, closed, record_left_iff ran closed _⟩

end Libmdr
