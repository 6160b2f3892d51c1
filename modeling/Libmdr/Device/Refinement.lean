import Libmdr.Device.Ledger
import Libmdr.Device.Reading
import Libmdr.PacketConn.Completion

/-!
# The device keeps its ledger

What the functions of the device add to its record is a run of the ledger. A function that
answers or passes on an operation starts with the operation open and ends with none open; user
code, which it may run in between, starts and ends with none open.
-/

namespace Libmdr
set_option autoImplicit false

/-- The ledger of a device, with the operation that is open. -/
def Device.ledger (d : Device) (opened : Option Job) (held : List CallbackData) : Ledger :=
  { opened, held, nextTicket := d.nextTicket, nextAddress := d.nextAddress }

/-- What is added to the record is a run of the ledger, whatever records wait; new records go
behind those. -/
def Leads (opened : Option Job) (d : Device) (opened' : Option Job) (d' : Device) : Prop :=
  ∃ events, d'.log = d.log ++ events ∧ calledBackIn events = [] ∧
    d'.callbackData = d.callbackData ++ recordsIn events ∧
    ∀ held, Trace.Run Ledger.Step (d.ledger opened held) events
      (d'.ledger opened' (held ++ recordsIn events))

theorem Leads.refl (opened : Option Job) (d : Device) : Leads opened d opened d := by
  refine ⟨[], (List.append_nil _).symm, rfl, (List.append_nil _).symm, fun held => ?_⟩
  rw [recordsIn, List.filterMap_nil, List.append_nil]
  exact .nil _

theorem Leads.trans {a b c : Option Job} {d e d' : Device} (front : Leads a d b e)
    (back : Leads b e c d') : Leads a d c d' := by
  obtain ⟨xs, log, none, held, run⟩ := front
  obtain ⟨ys, log', none', held', run'⟩ := back
  refine ⟨xs ++ ys, ?_, ?_, ?_, fun waiting => ?_⟩
  · rw [log', log, List.append_assoc]
  · rw [calledBackIn_append, none, none', List.append_nil]
  · rw [held', held, recordsIn_append, List.append_assoc]
  · rw [recordsIn_append, ← List.append_assoc]
    exact (run waiting).append (run' _)

/-- One event that makes no record. -/
theorem Leads.event {opened opened' : Option Job} {d d' : Device} {event : DeviceEvent}
    (step : ∀ held, Ledger.Step (d.ledger opened held) event (d'.ledger opened' held))
    (log : d'.log = d.log ++ [event]) (held : d'.callbackData = d.callbackData)
    (other : recordsIn [event] = []) (same : calledBackIn [event] = []) :
    Leads opened d opened' d' := by
  refine ⟨[event], log, same, ?_, fun waiting => ?_⟩
  · rw [held, other, List.append_nil]
  · rw [other, List.append_nil]
    exact .single (step waiting)

/-- An allocation is not recorded. -/
theorem Leads.of_malloc {opened opened' : Option Job} {env : DeviceEnv} {d e d' : Device}
    {block : Bool} (allocated : d.malloc env = (block, e)) (leads : Leads opened e opened' d') :
    Leads opened d opened' d' := by
  cases allocated
  exact leads

/-- User code starts and ends with no operation open. -/
def UserCode.Keeps (user : UserCode) : Prop := ∀ d d', user d = some d' → Leads none d none d'

namespace Device

variable {env : DeviceEnv} {user : UserCode} {d d' : Device} {ticket : Ticket}
  {callbacks : UserCallbacks}

/-! ## Functions that the operations share -/

theorem answer_leads (keeps : user.Keeps) {fn : FnPtr} {reply : Reply}
    (isAnswer : Answer.Is { fn, reply, userData := callbacks.userData } callbacks)
    (run : d.answer user ticket callbacks fn reply = some d') :
    Leads (some (ticket, callbacks)) d none d' := by
  have calls : Leads (some (ticket, callbacks)) d none (d.record (.answered ticket _)) :=
    .event (fun held => .answered (ticket, callbacks) _ held _ _ isAnswer) rfl rfl rfl rfl
  exact calls.trans (keeps _ _ run)

theorem dropped_leads (d : Device) (ticket : Ticket)
    (isNull : callbacks.result = none ∨ callbacks.error = none) :
    Leads (some (ticket, callbacks)) d none (d.record (.dropped ticket)) :=
  .event (fun held => .dropped (ticket, callbacks) held _ _ isNull) rfl rfl rfl rfl

theorem answerError_leads (keeps : user.Keeps)
    (run : d.answerError user ticket callbacks = some d') :
    Leads (some (ticket, callbacks)) d none d' := by
  unfold answerError at run
  split at run
  · rename_i isNull
    cases run
    exact dropped_leads d ticket (.inr isNull)
  · rename_i fn isFn
    exact answer_leads keeps ⟨isFn, rfl⟩ run

theorem answerResult_leads (keeps : user.Keeps) {read : Option (Option CallbackArgs)}
    (passes : read ≠ some none) (run : d.answerResult user ticket callbacks read = some d') :
    Leads (some (ticket, callbacks)) d none d' := by
  unfold answerResult at run
  split at run
  · rename_i isNull
    cases run
    exact dropped_leads d ticket (.inl isNull)
  · rename_i fn isFn
    obtain ⟨args, isArgs, run⟩ := Option.bind_eq_some_iff.mp run
    cases args with
    | none => exact absurd isArgs passes
    | some args => exact answer_leads keeps ⟨isFn, rfl⟩ run

theorem makeRequest_leads (keeps : user.Keeps) {request : DeviceRequest}
    (proper : request.Proper) (run : d.makeRequest env user request ticket callbacks = some d') :
    Leads (some (ticket, callbacks)) d none d' := by
  unfold makeRequest at run
  split at run
  · rename_i e failed
    exact .of_malloc failed (answerError_leads keeps run)
  · rename_i e allocated
    cases run
    refine .of_malloc allocated ⟨[_], rfl, rfl, rfl, fun held => .single ?_⟩
    exact .requested held e.nextTicket ⟨e.nextAddress, ticket, callbacks⟩ request proper

theorem addSubscription_leads {subscribe : DeviceSubscribe} {update : Option FnPtr}
    {userData : Nat} (run : d.addSubscription env subscribe update userData = some d') :
    Leads none d none d' := by
  unfold addSubscription at run
  split at run
  · rename_i e failed
    cases run
    exact .of_malloc failed (.refl none _)
  · rename_i e allocated
    dsimp only at run
    refine .of_malloc allocated ?_
    split at run
    · cases run
      exact .event (fun held => .subscribed none held _ _ subscribe) rfl rfl rfl rfl
    · obtain ⟨nodes, -, run⟩ := Option.bind_eq_some_iff.mp run
      cases run
      exact .event (fun held => .subscribed none held _ _ subscribe) rfl rfl rfl rfl

theorem removeSubscription_leads {address : Address}
    (run : d.removeSubscription address = some d') : Leads none d none d' := by
  obtain ⟨nodes, -, run⟩ := Option.bind_eq_some_iff.mp run
  split at run
  · cases run
    exact .refl none d
  · cases run
    exact .event (fun held => .removed _ _) rfl rfl rfl rfl

theorem call_leads (keeps : user.Keeps) {c : DeviceCall} (run : d.call env user c = some d') :
    Leads none d none d' := by
  have refuses (e : Device) : Leads none e none (e.record .refused) :=
    .event (fun held => .refused _) rfl rfl rfl rfl
  cases c with
  | request operation callbacks =>
    unfold call at run
    dsimp only at run
    split at run
    · cases run
      exact refuses d
    · rename_i request asks
      have proper : request.Proper := .inl ⟨operation, d.supportedFunctions, asks⟩
      have starts : Leads none d (some (d.nextTicket, callbacks))
          ({ d with nextTicket := d.nextTicket + 1 }.record
            (.started d.nextTicket operation callbacks)) :=
        .event (fun held => .started held _ _ operation callbacks) rfl rfl rfl rfl
      exact starts.trans (makeRequest_leads keeps proper run)
  | subscribe operation update userData =>
    unfold call at run
    dsimp only at run
    split at run
    · cases run
      exact refuses d
    · exact addSubscription_leads run
  | removeSubscription address => exact removeSubscription_leads run

theorem calls_leads (keeps : user.Keeps) {calls : List DeviceCall}
    (run : calls.foldlM (fun d c => d.call env user c) d = some d') : Leads none d none d' := by
  induction calls generalizing d with
  | nil =>
    cases run
    exact .refl none _
  | cons c rest ih =>
    obtain ⟨e, first, run⟩ := Option.bind_eq_some_iff.mp run
    exact (call_leads keeps first).trans (ih run)

/-- By induction on how deep calls of the user are followed. -/
theorem userCode_keeps (env : DeviceEnv) (depth : Nat) : UserCode.Keeps (userCode env depth) := by
  induction depth with
  | zero => exact fun d d' run => by cases run
  | succ depth ih =>
    intro d d' run
    have leads := calls_leads ih run
    exact leads

end Device

/-! ## Callbacks of the packet connection -/

theorem supportFunctionRequest_proper : Device.supportFunctionRequest.Proper := .inr rfl

/-- Every callback of a request but that of `mdr_device_init` calls the user's callback. -/
theorem DeviceRequest.Proper.passes {request : DeviceRequest} {packet : Packet}
    (proper : request.Proper) (other : request.resultCallback ≠ .initResultProtocolInfo)
    (isMatch : replySpecifierMatches request.replySpecifier packet = true) :
    ∃ args, request.resultCallback.read packet = some (some args) := by
  rcases proper with ⟨operation, supported, asks⟩ | rfl
  · refine operation.passes asks ?_ isMatch
    rintro rfl
    cases asks
    exact other rfl
  · exact supportFunctionRequest_passes isMatch

/-- A call of a callback that the request was made with, on a packet that it matches. -/
structure DeviceRequest.Expects (request : DeviceRequest) (data : CallbackData) (call : Called) :
    Prop where
  userData : data.address = call.userData
  fn : ∀ packet, call.arg = .result packet → call.fn = request.resultCallback.fnPtr
  packet : ∀ packet, call.arg = .result (some packet) →
    replySpecifierMatches request.replySpecifier packet = true

namespace Device

variable {env : DeviceEnv} {user : UserCode} {d d' : Device} {data : CallbackData}

/-- The operation of a record ends or waits with another one, and the record is freed. -/
def Releases (data : CallbackData) (d d' : Device) : Prop :=
  ∃ e, Leads (some data.job) d none e ∧ d' = e.free data

theorem errorCallbackPassthrough_releases (keeps : user.Keeps)
    (run : d.errorCallbackPassthrough user data = some d') : Releases data d d' := by
  obtain ⟨e, answers, run⟩ := Option.bind_eq_some_iff.mp run
  cases run
  exact ⟨e, answerError_leads keeps answers, rfl⟩

theorem resultCallbackPassthrough_releases (keeps : user.Keeps)
    {read : Option (Option CallbackArgs)} (passes : read ≠ some none)
    (run : d.resultCallbackPassthrough user read data = some d') : Releases data d d' := by
  obtain ⟨e, answers, run⟩ := Option.bind_eq_some_iff.mp run
  cases run
  exact ⟨e, answerResult_leads keeps passes answers, rfl⟩

theorem initResultProtocolInfo_releases (keeps : user.Keeps)
    (run : d.initResultProtocolInfo env user data = some d') : Releases data d d' := by
  obtain ⟨e, makes, run⟩ := Option.bind_eq_some_iff.mp run
  cases run
  exact ⟨e, makeRequest_leads keeps supportFunctionRequest_proper makes, rfl⟩

theorem runGetEqCapabilitiesResult_releases (keeps : user.Keeps)
    {read : Option (Option CallbackArgs)} (passes : read ≠ some none)
    (run : d.runGetEqCapabilitiesResult env user read data = some d') : Releases data d d' := by
  unfold runGetEqCapabilitiesResult at run
  split at run
  · exact resultCallbackPassthrough_releases keeps passes run
  · obtain ⟨args, isArgs, run⟩ := Option.bind_eq_some_iff.mp run
    split at run
    · rename_i e failed
      obtain ⟨e', leads, frees⟩ := errorCallbackPassthrough_releases keeps run
      exact ⟨e', leads.of_malloc failed, frees⟩
    · rename_i e allocated
      obtain ⟨e', leads, frees⟩ := resultCallbackPassthrough_releases keeps (isArgs ▸ passes) run
      exact ⟨e', leads.of_malloc allocated, frees⟩

/-- The callback of a request that was made, on a packet that it matches. -/
theorem resultCallback_releases (keeps : user.Keeps) {request : DeviceRequest}
    (proper : request.Proper) {packet : Option Packet}
    (isMatch : ∀ p, packet = some p → replySpecifierMatches request.replySpecifier p = true)
    (run : d.resultCallback env user request.resultCallback packet data = some d') :
    Releases data d d' := by
  have passes (other : request.resultCallback ≠ .initResultProtocolInfo) :
      packet.bind request.resultCallback.read ≠ some none := by
    cases packet with
    | none => exact fun isNone => by cases isNone
    | some p =>
      obtain ⟨args, isArgs⟩ := proper.passes other (isMatch p rfl)
      rw [Option.bind_some, isArgs]
      exact fun isNone => by cases isNone
  cases callback : request.resultCallback with
  | successCallbackPassthrough =>
    rw [callback] at run
    exact resultCallbackPassthrough_releases keeps (fun isNone => by cases isNone) run
  | initResultProtocolInfo =>
    rw [callback] at run
    exact initResultProtocolInfo_releases keeps run
  | initResultSupportedFunction =>
    rw [callback] at run passes
    obtain ⟨p, rfl, run⟩ := Option.bind_eq_some_iff.mp run
    obtain ⟨e, adds, run⟩ := Option.bind_eq_some_iff.mp run
    obtain ⟨ret, -, adds⟩ := Option.bind_eq_some_iff.mp adds
    cases adds
    have leads := resultCallbackPassthrough_releases keeps
      (passes fun isInit => by cases isInit) run
    exact leads
  | getEqCapabilitiesResult =>
    rw [callback] at run passes
    exact runGetEqCapabilitiesResult_releases keeps (passes fun isInit => by cases isInit) run
  | _ =>
    rw [callback] at run passes
    exact resultCallbackPassthrough_releases keeps (passes fun isInit => by cases isInit) run

/-- The update callbacks leave the operations alone. -/
theorem updateCallback_leads (keeps : user.Keeps) {callback : UpdateCallback} {packet : Packet}
    {node : DeviceSubscription} (run : d.updateCallback user callback packet node = some d') :
    Leads none d none d' := by
  unfold updateCallback at run
  split at run
  · cases run
    exact .refl none d
  · rename_i fn isFn
    obtain ⟨args, -, run⟩ := Option.bind_eq_some_iff.mp run
    cases args with
    | none =>
      cases run
      exact .refl none d
    | some args =>
      have calls : Leads none d none (d.record (.updated fn args node.userData)) :=
        .event (fun held => .updated _ fn args _) rfl rfl rfl rfl
      exact calls.trans (keeps _ _ run)

/-- The record of a device is a run of the ledger, with no operation open and with the records
that wait. -/
def Kept (d : Device) : Prop :=
  Trace.Run Ledger.Step .start d.log (d.ledger none d.callbackData)

theorem kept_new : Device.newFromPacketconn.Kept := .nil _

theorem Kept.leads (kept : d.Kept) (leads : Leads none d none d') : d'.Kept := by
  obtain ⟨events, log, -, held, run⟩ := leads
  rw [Kept, log, held]
  exact Trace.Run.append kept (run d.callbackData)

/-- The record that was called back is freed, and no other. -/
theorem Kept.free (kept : d.Kept) (isHeld : data ∈ d.callbackData) {e : Device}
    (leads : Leads (some data.job) (d.record (.calledBack data)) none e) :
    (e.free data).Kept ∧ ∃ events, (e.free data).log = d.log ++ .calledBack data :: events ∧
      calledBackIn events = [] := by
  obtain ⟨events, log, noOther, held, run⟩ := leads
  obtain ⟨front, back, split⟩ := List.append_of_mem isHeld
  have opens : Ledger.Step (d.ledger none d.callbackData) (.calledBack data)
      ((d.record (.calledBack data)).ledger (some data.job) (front ++ back)) := by
    rw [split]
    exact .calledBack front back data _ _
  have whole := Trace.Run.append kept (.cons opens (run (front ++ back)))
  have sound := Ledger.sound whole
  have apart : ∀ other ∈ front ++ back ++ recordsIn events, other.address ≠ data.address := by
    have once := (sound.addressed.records.map CallbackData.address).nodup_iff.mpr
      sound.addresses_nodup
    rw [List.map_append, List.nodup_append] at once
    intro other isIn
    refine once.2.2 _ (List.mem_map_of_mem isIn) _ (List.mem_map_of_mem ?_)
    rw [calledBackIn_append]
    exact List.mem_append_right _ List.mem_cons_self
  have frees : (e.free data).callbackData = front ++ back ++ recordsIn events := by
    have others := List.filter_eq_self.mpr fun other isIn => decide_eq_true (apart other isIn)
    have all : e.callbackData = front ++ data :: back ++ recordsIn events := by
      rw [held, ← split]
      rfl
    rw [Device.free, all, List.filter_append, List.filter_append,
      List.filter_cons_of_neg (by simp), ← List.filter_append, ← List.filter_append]
    exact others
  have records : (e.free data).log = d.log ++ .calledBack data :: events := by
    rw [Device.free, log, record, List.append_assoc]
    rfl
  refine ⟨?_, events, records, noOther⟩
  rw [Kept, frees, records]
  exact whole

/-- A callback of the packet connection, on a request that the device made. -/
theorem callback_kept (kept : d.Kept) (keeps : user.Keeps) {event : Event}
    (expected : ∀ call, event = .called call → ∃ made request,
      .requested made request ∈ d.log ∧ request.Expects made call)
    (run : d.callback env user event = some d') :
    d'.Kept ∧ ∃ events, d'.log = d.log ++ events ∧
      (calledBackIn events).map CallbackData.address = (callsIn [event]).map Called.userData := by
  cases event with
  | called call =>
    obtain ⟨made, request, isMade, expects⟩ := expected call rfl
    have proper := Ledger.run_proper kept isMade
    obtain ⟨data, found, run⟩ := Option.bind_eq_some_iff.mp run
    have isHeld := List.mem_of_find?_eq_some found
    have isAddress : data.address = call.userData := by simpa using List.find?_some found
    have ends : Releases data (d.record (.calledBack data)) d' := by
      obtain ⟨handle, fn, arg, userData⟩ := call
      cases arg with
      | result packet =>
        obtain ⟨callback, isCallback, run⟩ := Option.bind_eq_some_iff.mp run
        obtain rfl : fn = request.resultCallback.fnPtr := expects.fn packet rfl
        rw [ResultCallback.ofFnPtr_fnPtr] at isCallback
        cases isCallback
        exact resultCallback_releases keeps proper
          (fun p isPacket => expects.packet p (congrArg CallArg.result isPacket)) run
      | error errno =>
        obtain ⟨-, run⟩ := Option.ite_none_right_eq_some.mp run
        exact errorCallbackPassthrough_releases keeps run
    obtain ⟨e, leads, rfl⟩ := ends
    obtain ⟨kept', events, log, noOther⟩ := kept.free isHeld leads
    refine ⟨kept', .calledBack data :: events, log, ?_⟩
    rw [calledBackIn] at noOther
    simp [calledBackIn, DeviceEvent.calledBack?, noOther, callsIn, isAddress]
  | notified subscription packet =>
    obtain ⟨update, node, run⟩ := callback_notified run
    have leads := updateCallback_leads keeps run
    obtain ⟨events, log, noOther, -, -⟩ := id leads
    exact ⟨kept.leads leads, events, log, by rw [noOther]; rfl⟩
  | _ =>
    cases run
    exact ⟨kept, [], (List.append_nil _).symm, rfl⟩

end Device

end Libmdr
