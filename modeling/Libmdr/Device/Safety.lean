import Libmdr.Device.Completion

/-!
# Every callback finds its record

The packet connection keeps the address of a callback record until it calls back. Whatever happens
in the meantime, and whatever the user does in callbacks, the record is in memory then, and the
function that is called finds what it reads. So no record is freed twice or used behind its end.
-/

namespace Libmdr
set_option autoImplicit false

/-! ## In the middle of a record -/

/-- A record up to a callback. By induction on the record; the requests behind a callback belong to
the part in front when the next callback comes behind them. -/
theorem Scripted.before {env : Env} {k k' : Nat} {events front back : List Event} {event : Event}
    (scripted : Scripted env k events k') (split : events = front ++ event :: back)
    (isCallback : event.IsCallback = true) : ∃ l, Scripted env k front l := by
  induction scripted generalizing front with
  | nil k => cases front <;> cases split
  | @quiet k k' other events isQuiet _ ih =>
    cases front with
    | nil => exact ⟨k, .nil k⟩
    | cons first front =>
      obtain ⟨rfl, later⟩ := List.cons.inj (split.trans List.cons_append)
      obtain ⟨l, scripted⟩ := ih later
      exact ⟨l, .quiet isQuiet scripted⟩
  | @callback k k' other events new isOther asked _ ih =>
    cases front with
    | nil => exact ⟨k, .nil k⟩
    | cons first front =>
      obtain ⟨rfl, behind⟩ := List.cons.inj (split.trans List.cons_append)
      rcases List.append_eq_append_iff.mp behind with ⟨rest, rfl, later⟩ | ⟨rest, early, later⟩
      · obtain ⟨l, scripted⟩ := ih later
        exact ⟨l, .callback new isOther asked scripted⟩
      · cases rest with
        | nil =>
          rw [List.append_nil] at early
          rw [← early, ← List.append_nil (new.map _)]
          exact ⟨_, .callback new isOther asked (.nil _)⟩
        | cons request rest =>
          obtain ⟨rfl, -⟩ := List.cons.inj later
          obtain ⟨_, -, rfl⟩ := List.mem_map.mp (early ▸ List.mem_append_right _ List.mem_cons_self)
          cases isCallback

/-- The number of callbacks that have run goes up with those in the record. -/
theorem Scripted.countP {env : Env} {k k' : Nat} {events : List Event}
    (scripted : Scripted env k events k') : k' = k + events.countP Event.IsCallback := by
  induction scripted with
  | nil => rfl
  | @quiet k k' event events isQuiet _ ih =>
    have other : ¬ event.IsCallback = true := by
      cases event <;> first | exact Bool.false_ne_true | cases isQuiet
    rw [List.countP_cons_of_neg other, ih]
  | @callback k k' event events new isCallback asked _ ih =>
    have none : (new.map Event.accepted).countP Event.IsCallback = 0 :=
      List.countP_eq_zero.mpr (by simp [Event.IsCallback])
    rw [List.countP_cons_of_pos isCallback, List.countP_append, none, ih]
    omega

/-! ## Records in use -/

theorem askedIn_addresses (events : List DeviceEvent) :
    (askedIn events).map (fun asked => asked.2.userData) =
      (recordsIn events).map CallbackData.address := by
  induction events with
  | nil => rfl
  | cons event rest ih =>
    rw [← List.singleton_append, askedIn_append, recordsIn_append, List.map_append, List.map_append,
      ih]
    cases event <;> rfl

namespace Coupled

variable {env : Env} {past : List Event} {d : Device}

/-- Requests that were accepted have records of their own. -/
theorem accepted_ext (coupled : Coupled env past d) {a b : Request} (isA : a ∈ acceptedIn past)
    (isB : b ∈ acceptedIn past) (same : a.callbacks.userData = b.callbacks.userData) : a = b := by
  have once := (Ledger.sound coupled.kept).addresses_nodup
  rw [← askedIn_addresses] at once
  have all := once.sublist (coupled.asked.sublist.map fun asked => asked.2.userData)
  rw [List.map_map] at all
  exact List.inj_on_of_nodup_map all isA isB same

/-- A record whose request was not called back is in memory. -/
theorem record_live (coupled : Coupled env past d) {call : Called} (expected : Expected past call)
    (calls : ∀ front other back, past = front ++ .called other :: back → Expected front other)
    (once : ∀ other ∈ callsIn past, other.handle ≠ call.handle) :
    ∃ data ∈ d.callbackData, data.address = call.userData := by
  obtain ⟨accepted, isAccepted, expects⟩ := expected
  obtain ⟨data, request, isMade, asked⟩ := coupled.made isAccepted
  have callbacks := (Prod.mk.inj asked).2
  have isAddress : data.address = call.userData := by
    rw [expects.userData, callbacks]
  have isRecord := mem_recordsIn.mpr ⟨request, isMade⟩
  refine ⟨data, ((Ledger.sound coupled.kept).held_iff isRecord).mpr fun isBack => ?_, isAddress⟩
  have isCalled := List.mem_map_of_mem (f := CallbackData.address) isBack
  rw [← coupled.calls] at isCalled
  obtain ⟨other, isCall, same⟩ := List.mem_map.mp isCalled
  obtain ⟨front, back, split⟩ := List.append_of_mem (mem_of_callsIn isCall)
  obtain ⟨before, isBefore, expectsOther⟩ := calls front other back split
  have isBefore : before ∈ acceptedIn past := by
    rw [split, acceptedIn_append]
    exact List.mem_append_left _ isBefore
  have one := coupled.accepted_ext isBefore isAccepted
    (by rw [← expectsOther.userData, same, isAddress, expects.userData])
  exact once other isCall (by rw [expectsOther.handle, expects.handle, one])

end Coupled

/-! ## Callbacks that return -/

/-- User code that returns. -/
def UserCode.Returns (user : UserCode) : Prop := ∀ d, (user d).isSome

/-- A request that is answered by an ACK alone has a callback that reads no packet. -/
theorem DeviceRequest.Proper.onlyAck {request : DeviceRequest} (proper : request.Proper)
    (onlyAck : request.replySpecifier.onlyAck = true) :
    request.resultCallback = .successCallbackPassthrough := by
  rcases proper with ⟨operation, supported, asks⟩ | rfl
  · cases operation with
    | init | getModelName | getFwVersion | getSeriesAndColor =>
      cases asks
      cases onlyAck
    | getEqCapabilities | getEqPresetAndLevels =>
      obtain ⟨-, ⟨⟩⟩ := Option.ite_none_left_eq_some.mp asks
      cases onlyAck
    | disableNcasm | enableNoiseCancelling | enableAmbientSoundMode =>
      obtain ⟨-, asks⟩ := Option.ite_none_right_eq_some.mp asks
      split at asks <;> cases asks <;> rfl
    | _ =>
      obtain ⟨-, ⟨⟩⟩ := Option.ite_none_right_eq_some.mp asks
      first | rfl | cases onlyAck
  · cases onlyAck

namespace Device

variable {env : DeviceEnv} {user : UserCode} {d : Device} {data : CallbackData}

theorem answerError_isSome (returns : user.Returns) (ticket : Ticket) (callbacks : UserCallbacks)
    (d : Device) : (d.answerError user ticket callbacks).isSome := by
  unfold answerError
  split
  · rfl
  · exact returns _

theorem answerResult_isSome (returns : user.Returns) {read : Option (Option CallbackArgs)}
    (reads : read.isSome) (ticket : Ticket) (callbacks : UserCallbacks) (d : Device) :
    (d.answerResult user ticket callbacks read).isSome := by
  obtain ⟨args, rfl⟩ := Option.isSome_iff_exists.mp reads
  unfold answerResult
  split
  · rfl
  · cases args with
    | none => rfl
    | some args => exact returns _

theorem makeRequest_isSome (returns : user.Returns) (request : DeviceRequest) (ticket : Ticket)
    (callbacks : UserCallbacks) (d : Device) :
    (d.makeRequest env user request ticket callbacks).isSome := by
  unfold makeRequest
  split
  · exact answerError_isSome returns ..
  · rfl

theorem errorCallbackPassthrough_isSome (returns : user.Returns) (data : CallbackData)
    (d : Device) : (d.errorCallbackPassthrough user data).isSome := by
  obtain ⟨e, answers⟩ := Option.isSome_iff_exists.mp
    (answerError_isSome returns data.ticket data.callbacks d)
  rw [errorCallbackPassthrough, answers]
  rfl

theorem resultCallbackPassthrough_isSome (returns : user.Returns)
    {read : Option (Option CallbackArgs)} (reads : read.isSome) (data : CallbackData)
    (d : Device) : (d.resultCallbackPassthrough user read data).isSome := by
  obtain ⟨e, answers⟩ := Option.isSome_iff_exists.mp
    (answerResult_isSome returns reads data.ticket data.callbacks d)
  rw [resultCallbackPassthrough, answers]
  rfl

theorem runGetEqCapabilitiesResult_isSome (returns : user.Returns)
    {read : Option (Option CallbackArgs)} (reads : read.isSome) (data : CallbackData)
    (d : Device) : (d.runGetEqCapabilitiesResult env user read data).isSome := by
  obtain ⟨args, rfl⟩ := Option.isSome_iff_exists.mp reads
  unfold runGetEqCapabilitiesResult
  split
  · exact resultCallbackPassthrough_isSome returns rfl data d
  · rw [Option.bind_eq_bind, Option.bind_some]
    split
    · exact errorCallbackPassthrough_isSome returns data _
    · exact resultCallbackPassthrough_isSome returns rfl data _

/-- The callback of a request, on what it may be called with. -/
theorem resultCallback_isSome (returns : user.Returns) {request : DeviceRequest}
    (proper : request.Proper) {packet : Option Packet}
    (isMatch : ∀ p, packet = some p → replySpecifierMatches request.replySpecifier p = true)
    (isAck : packet = none → request.replySpecifier.onlyAck = true) (data : CallbackData)
    (d : Device) :
    (d.resultCallback env user request.resultCallback packet data).isSome := by
  by_cases isInit : request.resultCallback = .initResultProtocolInfo
  · have makes : (d.makeRequest env user supportFunctionRequest data.ticket data.callbacks).isSome :=
      makeRequest_isSome returns ..
    obtain ⟨e, makes⟩ := Option.isSome_iff_exists.mp makes
    rw [isInit, resultCallback, initResultProtocolInfo, makes]
    rfl
  cases packet with
  | none =>
    rw [proper.onlyAck (isAck rfl)]
    exact resultCallbackPassthrough_isSome returns rfl data d
  | some p =>
    obtain ⟨args, reads⟩ := proper.passes isInit (isMatch p rfl)
    cases callback : request.resultCallback with
    | initResultProtocolInfo => exact absurd callback isInit
    | successCallbackPassthrough => exact resultCallbackPassthrough_isSome returns rfl data d
    | initResultSupportedFunction =>
      rw [callback] at reads
      obtain ⟨ret, isRet, -⟩ := Option.bind_eq_some_iff.mp reads
      have adds : ∃ e, d.addSupportedFunctions p = some e := by
        rw [addSupportedFunctions, isRet]
        exact ⟨_, rfl⟩
      obtain ⟨e, adds⟩ := adds
      rw [resultCallback, Option.bind_eq_bind, Option.bind_some, adds]
      exact resultCallbackPassthrough_isSome returns (Option.isSome_of_eq_some reads) data e
    | getEqCapabilitiesResult =>
      rw [callback] at reads
      exact runGetEqCapabilitiesResult_isSome returns (Option.isSome_of_eq_some reads) data d
    | _ =>
      rw [callback] at reads
      exact resultCallbackPassthrough_isSome returns (Option.isSome_of_eq_some reads) data d

/-- A callback of a request that was accepted and not called back returns. -/
theorem callback_isSome (returns : user.Returns) {conn : Env} {past : List Event}
    (coupled : Coupled conn past d) {call : Called} (expected : Expected past call)
    (live : ∃ data ∈ d.callbackData, data.address = call.userData) :
    (d.callback env user (.called call)).isSome := by
  obtain ⟨accepted, isAccepted, -, -, isFn, isArg⟩ := expected
  obtain ⟨made, request, isMade, same⟩ := coupled.made isAccepted
  obtain ⟨spec, callbacks⟩ := Prod.mk.inj same
  have proper := Ledger.run_proper coupled.kept isMade
  rw [callbacks] at isFn
  rw [spec] at isArg
  obtain ⟨data, isHeld, isAddress⟩ := live
  have found : (d.callbackData.find? fun data => data.address = call.userData).isSome :=
    List.find?_isSome.mpr ⟨data, isHeld, decide_eq_true isAddress⟩
  obtain ⟨data, found⟩ := Option.isSome_iff_exists.mp found
  obtain ⟨handle, fn, arg, userData⟩ := call
  rw [callback, found]
  cases arg with
  | error errno =>
    obtain rfl : errorCallbackPassthroughPtr = fn := Option.some.inj isFn
    exact errorCallbackPassthrough_isSome returns data _
  | result packet =>
    obtain rfl : request.resultCallback.fnPtr = fn := Option.some.inj isFn
    show (ResultCallback.ofFnPtr request.resultCallback.fnPtr >>= fun callback =>
      (d.record (.calledBack data)).resultCallback env user callback packet data).isSome
    rw [ResultCallback.ofFnPtr_fnPtr]
    refine resultCallback_isSome returns proper ?_ ?_ data _
    · rintro p rfl
      exact isArg
    · rintro rfl
      exact isArg

end Device

/-! ## Runs -/

namespace DeviceConn

variable {env : Env} {deviceEnv : DeviceEnv} {x y : DeviceConn} {conn : State}

/-- The packet connection runs for a device: in `mdr_device_process_by_availability`, or when it is
closed, the subscriptions removed. -/
inductive Enters (env : Env) (x : DeviceConn) : DeviceConn → State → Prop
  | process {now : Timespec} {readable writable : Bool} {result : Int} {conn : State}
      (processed : Libmdr.process env now readable writable x.conn = some (result, conn)) :
      Enters env x x conn
  | close {device : Device} {y : DeviceConn} {conn : State}
      (removed : x.device.removeSubscriptions = some device)
      (passed : x.passOn env device = some y) (closed : Libmdr.close env y.conn = some conn) :
      Enters env x y conn

theorem Reached.enters (reached : x.Reached env) (enters : x.Enters env y conn) :
    y.Reached env ∧ Ran env y.conn conn ∧
      ∃ events closing, Records y.conn false events conn closing := by
  cases enters with
  | process processed =>
    obtain ⟨events, records⟩ := process_records processed
    exact ⟨reached, process_ran processed, events, false, records⟩
  | close removed passed closed =>
    obtain ⟨events, closing, records, -⟩ := close_records closed
    exact ⟨reached.passOn (removeSubscriptions_leads removed) passed, close_ran closed, events,
      closing, records⟩

/-- **No callback uses a freed record.** In every run, whatever the packet connection and the
user's callbacks did before, also in the same call: when the packet connection calls back, the
record that it calls back with is in memory, and the callback returns if the user's code does. -/
theorem called_returns {calls : List Call} {fconn : FrameConn} {host : Host}
    (ran : (start fconn host).run env deviceEnv calls = some x) (enters : x.Enters env y conn)
    {front back : List Event} {call : Called} {d : Device}
    (split : conn.log = y.conn.log ++ (front ++ .called call :: back))
    (followed : y.device.follow env deviceEnv front y.conn.calls = some d) {user : UserCode}
    (returns : user.Returns) :
    (∃ data ∈ d.callbackData, data.address = call.userData) ∧
      (d.callback deviceEnv user (.called call)).isSome := by
  obtain ⟨⟨⟨fconn, host, records⟩, coupled⟩, ⟨events, log, scripted⟩, later, closing, more⟩ :=
    ((reached_start env fconn host).run ran).enters enters
  have whole := records.trans more
  rw [← more.log] at whole
  have calls := whole.expected rfl
  obtain ⟨l, scripted⟩ := scripted.before (List.append_cancel_left (log.symm.trans split)) rfl
  have before : Coupled env (y.conn.log ++ front) d := by
    refine follow_coupled scripted coupled ?_ followed
    intro earlier other rest isOther
    refine calls earlier other (rest ++ .called call :: back) ?_
    rw [split, ← List.append_assoc, isOther, List.append_assoc, List.cons_append]
  rw [← List.append_assoc] at split
  have expected := calls _ _ _ split
  have once := whole.served.inOrder.nodup whole.served.distinct
  have live : ∃ data ∈ d.callbackData, data.address = call.userData := by
    refine before.record_live expected ?_ ?_
    · intro earlier other rest isOther
      refine calls earlier other (rest ++ .called call :: back) ?_
      rw [split, isOther, List.append_assoc, List.cons_append]
    · intro other isOther same
      rw [split, callsIn_append, List.map_append, List.nodup_append] at once
      exact once.2.2 _ (List.mem_map_of_mem isOther) _ List.mem_cons_self same
  exact ⟨live, Device.callback_isSome returns before expected live⟩

/-- `called_returns` when a connection is closed on which two requests wait, and the first was
called back. -/
theorem called_returns_second :
    let call : Called := { handle := 1, fn := 19, arg := .error (-6), userData := 1 }
    ∃ x y conn front d,
      (start .fresh (.listing [] [])).run .idle .idle [.user (.request .getModelName .both),
        .user (.request .getFwVersion .both)] = some x ∧
      x.Enters .idle y conn ∧ conn.log = y.conn.log ++ (front ++ [.called call]) ∧
      y.device.follow .idle .idle front y.conn.calls = some d ∧
      (∃ data ∈ d.callbackData, data.address = 1) ∧
      (d.callback .idle some (.called call)).isSome := by
  intro call
  let front (conn y : State) : List Event := (conn.log.drop y.log.length).dropLast
  obtain ⟨x, ran, more⟩ := (Option.any_eq_true _ _).mp (show ((start .fresh (.listing [] [])).run
      .idle .idle [.user (.request .getModelName .both),
        .user (.request .getFwVersion .both)]).any
    (fun x => x.device.removeSubscriptions.any fun device => (x.passOn .idle device).any fun y =>
      (Libmdr.close .idle y.conn).any fun conn =>
        conn.log = y.conn.log ++ (front conn y.conn ++ [.called call]) ∧
          (y.device.follow .idle .idle (front conn y.conn) y.conn.calls).isSome) = true by
    decide +kernel)
  obtain ⟨device, removed, more⟩ := (Option.any_eq_true _ _).mp more
  obtain ⟨y, passed, more⟩ := (Option.any_eq_true _ _).mp more
  obtain ⟨conn, closed, shows⟩ := (Option.any_eq_true _ _).mp more
  obtain ⟨split, follows⟩ := of_decide_eq_true shows
  obtain ⟨d, followed⟩ := Option.isSome_iff_exists.mp follows
  have enters : x.Enters .idle y conn := .close removed passed closed
  exact ⟨x, y, conn, front conn y.conn, d, ran, enters, split, followed,
    called_returns ran enters split followed fun _ => rfl⟩

end DeviceConn

end Libmdr
