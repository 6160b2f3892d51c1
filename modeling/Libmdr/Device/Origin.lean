import Libmdr.Device.Asking
import Libmdr.PacketConn.Digest

/-!
# Where answers come from

What a user's callback is told was in a frame that was read. The packet connection calls back with
a packet that it decoded, or without one when it read an ACK; and the device passes on what the
callback of the operation's own request reads of this packet.
-/

namespace Libmdr
set_option autoImplicit false

/-! ## What a request is called back with -/

/-- What a callback is called with was read before: an ACK, or the packet. -/
def Called.FromRead (past : List Event) (call : Called) : Prop :=
  match call.arg with
  | .result none => ∃ frame ∈ receivedIn past, frame.dataType = frameDataTypeAck
  | .result (some packet) => packet ∈ parsedIn past
  | .error _ => True

theorem Called.FromRead.append {past : List Event} {call : Called} (read : call.FromRead past)
    (more : List Event) : call.FromRead (past ++ more) := by
  obtain ⟨handle, fn, arg, userData⟩ := call
  rcases arg with ⟨_ | packet⟩ | errno
  · obtain ⟨frame, isRead, isAck⟩ := read
    refine ⟨frame, ?_, isAck⟩
    rw [receivedIn_append]
    exact List.mem_append_left _ isRead
  · show packet ∈ parsedIn (past ++ more)
    rw [parsedIn_append]
    exact List.mem_append_left _ read
  · trivial

/-- The calls that were made and those that are about to be. -/
structure CallsRead (past : List Event) (t : Session) : Prop where
  owed : ∀ call, .called call ∈ t.owed → call.FromRead past
  made : ∀ call, .called call ∈ past → call.FromRead past

namespace CallsRead

variable {past : List Event} {t t' : Session} {event : Event}

theorem quiet (now : CallsRead past t) (other : ∀ call, event ≠ .called call)
    (owed : ∀ call, .called call ∈ t'.owed → call.FromRead (past ++ [event])) :
    CallsRead (past ++ [event]) t' where
  owed := owed
  made call isCall := by
    rcases List.mem_append.mp isCall with isOld | isNew
    · exact (now.made call isOld).append [event]
    · exact absurd (List.mem_singleton.mp isNew).symm (other call)

/-- A request ends, and what its callback is called with was read last. -/
theorem ends (now : CallsRead past t) (other : ∀ call, event ≠ .called call) {head : Request}
    {outcome : Outcome} (owed : t'.owed = head.ending outcome)
    (read : ∀ call, head.callOf outcome = some call → call.FromRead (past ++ [event])) :
    CallsRead (past ++ [event]) t' := by
  refine now.quiet other ?_
  intro call isOwed
  rw [owed] at isOwed
  rcases List.mem_cons.mp isOwed with isFinished | isCalled
  · cases isFinished
  · obtain ⟨made, isMade, isCall⟩ := List.mem_map.mp isCalled
    obtain rfl := Event.called.inj isCall
    exact read made (Option.mem_toList.mp isMade)

theorem step (now : CallsRead past t) (step : Session.Step t event t') :
    CallsRead (past ++ [event]) t' := by
  cases step with
  | owed q event rest closing =>
    refine ⟨?_, ?_⟩
    · exact fun call isOwed => (now.owed call (List.mem_cons_of_mem _ isOwed)).append [event]
    · intro call isCall
      rcases List.mem_append.mp isCall with isOld | isNew
      · exact (now.made call isOld).append [event]
      · obtain rfl := List.mem_singleton.mp isNew
        exact (now.owed call List.mem_cons_self).append _
  | expired q head rest time first sent late spent =>
    refine now.ends (fun _ isCall => by cases isCall) rfl ?_
    intro call isCall
    cases isAcked : head.acked <;> rw [isAcked] at isCall <;>
      obtain ⟨fn, isFn, rfl⟩ := Option.map_eq_some_iff.mp isCall <;> trivial
  | ackedOnly q head rest frame time first isAck isMatch only =>
    refine now.ends (fun _ isCall => by cases isCall) rfl ?_
    intro call isCall
    obtain ⟨fn, isFn, rfl⟩ := Option.map_eq_some_iff.mp isCall
    refine ⟨frame, ?_, isAck⟩
    rw [receivedIn_append]
    exact List.mem_append_right _ List.mem_cons_self
  | replied q head rest packet first isMatch =>
    refine now.ends (fun _ isCall => by cases isCall) rfl ?_
    intro call isCall
    obtain ⟨fn, isFn, rfl⟩ := Option.map_eq_some_iff.mp isCall
    show packet ∈ parsedIn (past ++ [.parsed packet (some head)])
    rw [parsedIn_append]
    exact List.mem_append_right _ List.mem_cons_self
  | closing q head rest closing first =>
    refine now.ends (fun _ isCall => by cases isCall) rfl ?_
    intro call isCall
    obtain ⟨fn, isFn, rfl⟩ := Option.map_eq_some_iff.mp isCall
    trivial
  | ackedWaits =>
    refine now.quiet (fun _ isCall => by cases isCall) fun call isOwed => ?_
    cases List.mem_singleton.mp isOwed
  | _ => exact now.quiet (fun _ isCall => by cases isCall) fun call isOwed => by cases isOwed

end CallsRead

theorem Records.fromRead {s s' : State} {closing closing' : Bool} {events : List Event}
    (records : Records s closing events s' closing') {call : Called}
    (isCall : .called call ∈ events) : call.FromRead events :=
  (Trace.Run.invariant CallsRead ⟨fun _ isOwed => (by cases isOwed), fun _ isIn => (by cases isIn)⟩
    (fun past t event t' now step => now.step step) records.run).made call isCall

/-! ## What the device's record is made of -/

/-- A request that the operation makes, the second one of `mdr_device_init` included. -/
def Operation.Makes (operation : Operation) (request : DeviceRequest) : Prop :=
  (∃ supported, operation.request supported = some request) ∨
    operation = .init ∧ request = Device.supportFunctionRequest

/-- What the callback of a request passes on was read for it: nothing when an ACK is the answer,
else what the callback reads of a packet that the request waits for. -/
def DeviceRequest.Gives (request : DeviceRequest) (past : List Event) (args : CallbackArgs) :
    Prop :=
  (args = .nothing ∧ request.replySpecifier.onlyAck = true ∧
    ∃ frame ∈ receivedIn past, frame.dataType = frameDataTypeAck) ∨
  ∃ packet ∈ parsedIn past, replySpecifierMatches request.replySpecifier packet = true ∧
    request.resultCallback.read packet = some (some args)

/-- Why a request is made behind this record: the operation was called just now; or what the first
request of `mdr_device_init` was made with was called back just now. -/
def MadeIn (log : List DeviceEvent) (ticket : Ticket) (request : DeviceRequest) : Prop :=
  (∃ operation callbacks supported, log.getLast? = some (.started ticket operation callbacks) ∧
    operation.request supported = some request) ∨
  request = Device.supportFunctionRequest ∧ ∃ data first, log.getLast? = some (.calledBack data) ∧
    data.ticket = ticket ∧ .requested data first ∈ log ∧
    first.resultCallback = .initResultProtocolInfo

/-- A request of the operation was made that gives this. -/
def GivenIn (past : List Event) (log : List DeviceEvent) (ticket : Ticket) (args : CallbackArgs) :
    Prop :=
  ∃ data request, .requested data request ∈ log ∧ data.ticket = ticket ∧ request.Gives past args

/-- The round of the loop in `mdr_device_init_result_supported_function` for a packet. -/
def SupportedFunctions.addPacket (supported : SupportedFunctions) (packet : Packet) :
    SupportedFunctions :=
  match packet.connectRetSupportFunction? with
  | none => supported
  | some ret =>
    (ret.functionTypes.take ret.numFunctionTypes.toNat).foldl SupportedFunctions.add supported

/-- What a new device supports when it is told by these packets. -/
def supportedBy (packets : List Packet) : SupportedFunctions :=
  packets.foldl SupportedFunctions.addPacket .empty

/-- Packets that were decoded tell that these functions are supported, and no others. -/
def SupportedFunctions.ReportedIn (past : List Event) (supported : SupportedFunctions) : Prop :=
  ∃ packets : List Packet, (∀ packet ∈ packets, packet ∈ parsedIn past) ∧
    supported = supportedBy packets

/-- Why the device has this node: user code subscribed when packets had told that the function is
supported, and the packet connection was passed the node's address. -/
def DeviceSubscription.MadeIn (node : DeviceSubscription) (called : DeviceCall → Prop)
    (past : List Event) (log : List DeviceEvent) : Prop :=
  ∃ (operation : SubscribeOperation) (supported : SupportedFunctions) (subscribe : DeviceSubscribe),
    called (.subscribe operation node.userResultCallback node.userData) ∧
      supported.ReportedIn past ∧ operation.subscribe supported = some subscribe ∧
      .subscribed node.address subscribe ∈ log

/-- A node of the device was told a packet, and its update callback reads this of it. -/
def UpdatedIn (called : DeviceCall → Prop) (past : List Event) (log : List DeviceEvent)
    (fn : FnPtr) (args : CallbackArgs) (userData : Nat) : Prop :=
  ∃ node : DeviceSubscription, node.MadeIn called past log ∧ node.userResultCallback = some fn ∧
    node.userData = userData ∧ ∃ subscription packet update,
      (subscription, packet) ∈ notifiedIn past ∧
      subscription.callbacks.userData = node.address ∧
      subscription.callbacks.result.bind UpdateCallback.ofFnPtr = some update ∧
      update.read packet = some (some args)

/-- Why an event may stand behind this record of a device, and this one of its connection, when
these calls are made. -/
def DeviceEvent.Justified (called : DeviceCall → Prop) (past : List Event)
    (log : List DeviceEvent) : DeviceEvent → Prop
  | .started _ operation _ =>
    ∃ supported : SupportedFunctions, supported.ReportedIn past ∧
      (operation.request supported).isSome
  | .requested data request => MadeIn log data.ticket request
  | .answered ticket answer => ∀ args, answer.reply = .result args → GivenIn past log ticket args
  | .updated fn args userData => UpdatedIn called past log fn args userData
  | _ => True

/-- A record whose requests, answers and updates have a reason in front of them. -/
def Sourced (called : DeviceCall → Prop) (past : List Event) (log : List DeviceEvent) : Prop :=
  ∀ front event back, log = front ++ event :: back → event.Justified called past front

namespace Sourced

variable {called : DeviceCall → Prop} {past : List Event} {log : List DeviceEvent}

theorem nil (called : DeviceCall → Prop) (past : List Event) : Sourced called past [] :=
  fun front _ _ split => by cases front <;> cases split

theorem concat {event : DeviceEvent} (sourced : Sourced called past log)
    (justified : event.Justified called past log) : Sourced called past (log ++ [event]) := by
  intro front other back split
  rcases List.eq_nil_or_concat back with rfl | ⟨back, last, rfl⟩
  · obtain ⟨rfl, same⟩ := List.append_inj' split rfl
    cases same
    exact justified
  · rw [List.concat_eq_append, ← List.cons_append, ← List.append_assoc] at split
    exact sourced front other back (List.append_inj' split rfl).1

end Sourced

/-- A device whose record, supported functions and subscriptions have their reasons. -/
structure Device.Sourced (called : DeviceCall → Prop) (past : List Event) (d : Device) : Prop where
  record : Libmdr.Sourced called past d.log
  reported : d.supportedFunctions.ReportedIn past
  nodes : ∀ nodes, d.subscriptions = some nodes → ∀ node ∈ nodes, node.MadeIn called past d.log

/-- User code starts operations that are supported, makes requests of these, and no answers but
errors. -/
def UserCode.KeepsSourced (called : DeviceCall → Prop) (past : List Event) (user : UserCode) :
    Prop :=
  ∀ d d', user d = some d' → d.Sourced called past → d'.Sourced called past

theorem DeviceSubscription.MadeIn.mono {node : DeviceSubscription} {called : DeviceCall → Prop}
    {past : List Event} {log : List DeviceEvent} (made : node.MadeIn called past log)
    (more : List DeviceEvent) : node.MadeIn called past (log ++ more) := by
  obtain ⟨operation, supported, subscribe, isCalled, reported, opens, isSubscribed⟩ := made
  exact ⟨operation, supported, subscribe, isCalled, reported, opens,
    List.mem_append_left _ isSubscribed⟩

/-! ## Functions of the device -/

namespace Device

variable {called : DeviceCall → Prop} {past : List Event} {env : DeviceEnv} {user : UserCode}
  {d d' : Device} {ticket : Ticket} {callbacks : UserCallbacks} {data : CallbackData}

theorem malloc_log {e : Device} {block : Bool} (allocated : d.malloc env = (block, e)) :
    e.log = d.log := by
  cases allocated
  rfl

theorem Sourced.malloc {e : Device} {block : Bool} (sourced : d.Sourced called past)
    (allocated : d.malloc env = (block, e)) : e.Sourced called past := by
  cases allocated
  exact ⟨sourced.record, sourced.reported, sourced.nodes⟩

theorem Sourced.concat {e : Device} {event : DeviceEvent} (sourced : d.Sourced called past)
    (log : e.log = d.log ++ [event]) (same : e.supportedFunctions = d.supportedFunctions)
    (subscriptions : e.subscriptions = d.subscriptions)
    (justified : event.Justified called past d.log) : e.Sourced called past where
  record := log ▸ sourced.record.concat justified
  reported := same ▸ sourced.reported
  nodes nodes isNodes node isIn := by
    rw [log]
    exact (sourced.nodes nodes (subscriptions ▸ isNodes) node isIn).mono [event]

theorem answerError_sourced (keeps : user.KeepsSourced called past) (sourced : d.Sourced called past)
    (run : d.answerError user ticket callbacks = some d') : d'.Sourced called past := by
  unfold answerError at run
  split at run
  · cases run
    exact sourced.concat rfl rfl rfl trivial
  · refine keeps _ _ run (sourced.concat rfl rfl rfl ?_)
    exact fun _ isResult => by cases isResult

theorem answerResult_sourced (keeps : user.KeepsSourced called past) (sourced : d.Sourced called past)
    {read : Option (Option CallbackArgs)}
    (gives : ∀ args, read = some (some args) → GivenIn past d.log ticket args)
    (run : d.answerResult user ticket callbacks read = some d') : d'.Sourced called past := by
  unfold answerResult at run
  split at run
  · cases run
    exact sourced.concat rfl rfl rfl trivial
  · obtain ⟨args, isArgs, run⟩ := Option.bind_eq_some_iff.mp run
    cases args with
    | none =>
      cases run
      exact sourced.concat rfl rfl rfl trivial
    | some args =>
      refine keeps _ _ run (sourced.concat rfl rfl rfl ?_)
      rintro _ ⟨⟩
      exact gives args isArgs

theorem makeRequest_sourced (keeps : user.KeepsSourced called past) (sourced : d.Sourced called past)
    {request : DeviceRequest} (isMade : MadeIn d.log ticket request)
    (run : d.makeRequest env user request ticket callbacks = some d') : d'.Sourced called past := by
  unfold makeRequest at run
  split at run
  · rename_i e failed
    exact answerError_sourced keeps (sourced.malloc failed) run
  · rename_i e allocated
    rw [← malloc_log allocated] at isMade
    cases run
    exact (sourced.malloc allocated).concat rfl rfl rfl isMade

theorem addSubscription_sourced (sourced : d.Sourced called past) {operation : SubscribeOperation}
    {subscribe : DeviceSubscribe} {update : Option FnPtr} {userData : Nat}
    (isCalled : called (.subscribe operation update userData))
    (opens : operation.subscribe d.supportedFunctions = some subscribe)
    (run : d.addSubscription env subscribe update userData = some d') : d'.Sourced called past := by
  unfold addSubscription at run
  split at run
  · rename_i e failed
    cases run
    exact sourced.malloc failed
  · rename_i e allocated
    have reported := sourced.reported
    replace sourced := sourced.malloc allocated
    dsimp only at run
    split at run
    · cases run
      exact sourced.concat rfl rfl rfl trivial
    · rename_i handle isHandle
      obtain ⟨nodes, isNodes, run⟩ := Option.bind_eq_some_iff.mp run
      cases run
      refine ⟨sourced.record.concat trivial, sourced.reported, ?_⟩
      rintro _ ⟨⟩ node isIn
      rcases List.mem_append.mp isIn with isOld | isNew
      · exact (sourced.nodes nodes isNodes node isOld).mono [_]
      · rw [List.mem_singleton.mp isNew]
        exact ⟨operation, _, subscribe, isCalled, reported, opens,
          List.mem_append_right _ (List.mem_singleton_self _)⟩

theorem removeSubscription_sourced (sourced : d.Sourced called past) {address : Address}
    (run : d.removeSubscription address = some d') : d'.Sourced called past := by
  obtain ⟨nodes, isNodes, run⟩ := Option.bind_eq_some_iff.mp run
  split at run
  · cases run
    exact sourced
  · cases run
    refine ⟨sourced.record.concat trivial, sourced.reported, ?_⟩
    rintro _ ⟨⟩ node isIn
    exact (sourced.nodes nodes isNodes node (List.mem_of_mem_eraseP isIn)).mono [_]

theorem call_sourced (keeps : user.KeepsSourced called past) (sourced : d.Sourced called past)
    {c : DeviceCall} (isCalled : called c) (run : d.call env user c = some d') :
    d'.Sourced called past := by
  cases c with
  | request operation callbacks =>
    unfold call at run
    dsimp only at run
    split at run
    · cases run
      exact sourced.concat rfl rfl rfl trivial
    · rename_i request asks
      have starts : ({ d with nextTicket := d.nextTicket + 1 }.record
          (.started d.nextTicket operation callbacks)).Sourced called past := sourced.concat rfl rfl rfl
        ⟨d.supportedFunctions, sourced.reported, Option.isSome_of_eq_some asks⟩
      refine makeRequest_sourced keeps starts ?_ run
      exact .inl ⟨operation, callbacks, d.supportedFunctions, List.getLast?_concat, asks⟩
  | subscribe operation update userData =>
    unfold call at run
    dsimp only at run
    split at run
    · cases run
      exact sourced.concat rfl rfl rfl trivial
    · rename_i subscribe opens
      exact addSubscription_sourced sourced isCalled opens run
  | removeSubscription address => exact removeSubscription_sourced sourced run

/-- By induction on how deep calls of the user are followed. -/
theorem userCode_keepsSourced (past : List Event) (scripted : ∀ k, ∀ c ∈ env.script k, called c)
    (depth : Nat) : UserCode.KeepsSourced called past (userCode env depth) := by
  induction depth with
  | zero => exact fun d d' run => by cases run
  | succ depth ih =>
    intro d d' run sourced
    exact Trace.foldlM_related (fun e e' => e.Sourced called past → e'.Sourced called past)
      (fun _ => id) (fun _ _ _ front back now => back (front now))
      (fun e c e' isIn first now => call_sourced ih now (scripted _ c isIn) first) run
      ⟨sourced.record, sourced.reported, sourced.nodes⟩

/-! ## Callbacks of the packet connection -/

theorem errorCallbackPassthrough_sourced (keeps : user.KeepsSourced called past)
    (sourced : d.Sourced called past) (run : d.errorCallbackPassthrough user data = some d') :
    d'.Sourced called past := by
  obtain ⟨e, answers, run⟩ := Option.bind_eq_some_iff.mp run
  cases run
  have same := answerError_sourced keeps sourced answers
  exact ⟨same.record, same.reported, same.nodes⟩

theorem resultCallbackPassthrough_sourced (keeps : user.KeepsSourced called past)
    (sourced : d.Sourced called past) {read : Option (Option CallbackArgs)}
    (gives : ∀ args, read = some (some args) → GivenIn past d.log data.ticket args)
    (run : d.resultCallbackPassthrough user read data = some d') : d'.Sourced called past := by
  obtain ⟨e, answers, run⟩ := Option.bind_eq_some_iff.mp run
  cases run
  have same := answerResult_sourced keeps sourced gives answers
  exact ⟨same.record, same.reported, same.nodes⟩

theorem runGetEqCapabilitiesResult_sourced (keeps : user.KeepsSourced called past)
    (sourced : d.Sourced called past) {read : Option (Option CallbackArgs)}
    (gives : ∀ args, read = some (some args) → GivenIn past d.log data.ticket args)
    (run : d.runGetEqCapabilitiesResult env user read data = some d') : d'.Sourced called past := by
  unfold runGetEqCapabilitiesResult at run
  split at run
  · exact resultCallbackPassthrough_sourced keeps sourced gives run
  · obtain ⟨args, rfl, run⟩ := Option.bind_eq_some_iff.mp run
    rw [Option.bind_eq_bind, Option.bind_some] at run
    split at run
    · rename_i e failed
      exact errorCallbackPassthrough_sourced keeps (sourced.malloc failed) run
    · rename_i e allocated
      rw [← malloc_log allocated] at gives
      exact resultCallbackPassthrough_sourced keeps (sourced.malloc allocated) gives run

/-- The callback of a request, with what was read for it. -/
theorem resultCallback_sourced (keeps : user.KeepsSourced called past) (sourced : d.Sourced called past)
    {request : DeviceRequest} (isMade : .requested data request ∈ d.log)
    (isNow : d.log.getLast? = some (.calledBack data)) {packet : Option Packet}
    (isAck : packet = none → request.replySpecifier.onlyAck = true ∧
      ∃ frame ∈ receivedIn past, frame.dataType = frameDataTypeAck)
    (isRead : ∀ p, packet = some p → p ∈ parsedIn past ∧
      replySpecifierMatches request.replySpecifier p = true)
    (run : d.resultCallback env user request.resultCallback packet data = some d') :
    d'.Sourced called past := by
  have gives (args : CallbackArgs)
      (reads : packet.bind request.resultCallback.read = some (some args)) :
      GivenIn past d.log data.ticket args := by
    obtain ⟨p, rfl, reads⟩ := Option.bind_eq_some_iff.mp reads
    obtain ⟨isParsed, isMatch⟩ := isRead p rfl
    exact ⟨data, request, isMade, rfl, .inr ⟨p, isParsed, isMatch, reads⟩⟩
  cases callback : request.resultCallback with
  | successCallbackPassthrough =>
    rw [callback] at run gives
    refine resultCallbackPassthrough_sourced keeps sourced ?_ run
    rintro _ ⟨⟩
    cases packet with
    | none => exact ⟨data, request, isMade, rfl, .inl ⟨rfl, isAck rfl⟩⟩
    | some p => exact gives .nothing rfl
  | initResultProtocolInfo =>
    rw [callback] at run
    obtain ⟨e, asks, run⟩ := Option.bind_eq_some_iff.mp run
    cases run
    have second : MadeIn d.log data.ticket supportFunctionRequest :=
      .inr ⟨rfl, data, request, isNow, rfl, isMade, callback⟩
    have same := makeRequest_sourced keeps sourced second asks
    exact ⟨same.record, same.reported, same.nodes⟩
  | initResultSupportedFunction =>
    rw [callback] at run gives
    obtain ⟨p, rfl, run⟩ := Option.bind_eq_some_iff.mp run
    obtain ⟨e, adds, run⟩ := Option.bind_eq_some_iff.mp run
    obtain ⟨ret, isRet, adds⟩ := Option.bind_eq_some_iff.mp adds
    have log : e.log = d.log := by
      cases adds
      rfl
    have reported : e.supportedFunctions.ReportedIn past := by
      obtain ⟨packets, areParsed, supported⟩ := sourced.reported
      refine ⟨packets ++ [p], List.forall_mem_append.mpr
        ⟨areParsed, List.forall_mem_singleton.mpr (isRead p rfl).1⟩, ?_⟩
      cases adds
      rw [supportedBy, List.foldl_append, ← supportedBy, ← supported, List.foldl_cons,
        List.foldl_nil, SupportedFunctions.addPacket, isRet]
    have nodes : ∀ nodes, e.subscriptions = some nodes → ∀ node ∈ nodes,
        node.MadeIn called past e.log := by
      cases adds
      exact sourced.nodes
    rw [← log] at gives
    exact resultCallbackPassthrough_sourced keeps ⟨log ▸ sourced.record, reported, nodes⟩ gives run
  | getEqCapabilitiesResult =>
    rw [callback] at run gives
    exact runGetEqCapabilitiesResult_sourced keeps sourced gives run
  | _ =>
    rw [callback] at run gives
    exact resultCallbackPassthrough_sourced keeps sourced gives run

theorem updateCallback_sourced (keeps : user.KeepsSourced called past) (sourced : d.Sourced called past)
    {callback : UpdateCallback} {packet : Packet} {node : DeviceSubscription}
    (updates : ∀ fn args, node.userResultCallback = some fn →
      callback.read packet = some (some args) → UpdatedIn called past d.log fn args node.userData)
    (run : d.updateCallback user callback packet node = some d') : d'.Sourced called past := by
  unfold updateCallback at run
  split at run
  · cases run
    exact sourced
  · rename_i fn isFn
    obtain ⟨args, reads, run⟩ := Option.bind_eq_some_iff.mp run
    cases args with
    | none =>
      cases run
      exact sourced
    | some args => exact keeps _ _ run (sourced.concat rfl rfl rfl (updates fn args isFn reads))

/-- The record that is called back with is the one that the request was made with, and the node is
one of the device's. -/
theorem callback_sourced (keeps : user.KeepsSourced called past) (sourced : d.Sourced called past)
    {connEnv : Env} {before : List Event} (coupled : Coupled connEnv before d) {event : Event}
    (expected : ∀ call, event = .called call → Expected before call ∧ call.FromRead past)
    (told : ∀ subscription packet, event = .notified subscription packet →
      (subscription, packet) ∈ notifiedIn past)
    (run : d.callback env user event = some d') : d'.Sourced called past := by
  cases event with
  | called call =>
    obtain ⟨⟨accepted, isAccepted, -, userData, isFn, isArg⟩, read⟩ := expected call rfl
    obtain ⟨made, request, isMade, same⟩ := coupled.made isAccepted
    obtain ⟨spec, callbacks⟩ := Prod.mk.inj same
    rw [callbacks] at userData isFn
    rw [spec] at isArg
    obtain ⟨data, found, run⟩ := Option.bind_eq_some_iff.mp run
    have sound := Ledger.sound coupled.kept
    have isRecord := sound.addressed.records.mem_iff.mp
      (List.mem_append_left _ (List.mem_of_find?_eq_some found))
    have isAddress : data.address = call.userData := by simpa using List.find?_some found
    obtain rfl := sound.record_ext isRecord (mem_recordsIn.mpr ⟨request, isMade⟩)
      (isAddress.trans userData)
    have calledBack : (d.record (.calledBack data)).Sourced called past :=
      sourced.concat rfl rfl rfl trivial
    obtain ⟨handle, fn, arg, address⟩ := call
    cases arg with
    | error errno =>
      obtain ⟨-, run⟩ := Option.ite_none_right_eq_some.mp run
      exact errorCallbackPassthrough_sourced keeps calledBack run
    | result packet =>
      obtain ⟨callback, isCallback, run⟩ := Option.bind_eq_some_iff.mp run
      obtain rfl : request.resultCallback.fnPtr = fn := Option.some.inj isFn
      rw [ResultCallback.ofFnPtr_fnPtr] at isCallback
      cases isCallback
      refine resultCallback_sourced keeps calledBack (List.mem_append_left _ isMade)
        List.getLast?_concat ?_ ?_ run
      · rintro rfl
        exact ⟨isArg, read⟩
      · rintro p rfl
        exact ⟨read, isArg⟩
  | notified subscription packet =>
    obtain ⟨pointer, isPointer, run⟩ := Option.bind_eq_some_iff.mp run
    obtain ⟨update, isUpdate, run⟩ := Option.bind_eq_some_iff.mp run
    obtain ⟨nodes, isNodes, run⟩ := Option.bind_eq_some_iff.mp run
    obtain ⟨node, found, run⟩ := Option.bind_eq_some_iff.mp run
    refine updateCallback_sourced keeps sourced ?_ run
    intro fn args isFn reads
    have isAddress : node.address = subscription.callbacks.userData := by
      simpa using List.find?_some found
    exact ⟨node, sourced.nodes nodes isNodes node (List.mem_of_find?_eq_some found), isFn, rfl,
      subscription, packet, update, told _ _ rfl, isAddress.symm,
      Option.bind_eq_some_iff.mpr ⟨pointer, isPointer, isUpdate⟩, reads⟩
  | _ =>
    cases run
    exact sourced

end Device

/-! ## What an operation makes -/

/-- Only `mdr_device_init` waits for the protocol info. -/
theorem Operation.isInit {operation : Operation} {supported : SupportedFunctions}
    {request : DeviceRequest} (asks : operation.request supported = some request)
    (first : request.resultCallback = .initResultProtocolInfo) : operation = .init := by
  cases operation with
  | init => rfl
  | getModelName | getFwVersion | getSeriesAndColor =>
    cases asks
    cases first
  | getEqCapabilities | getEqPresetAndLevels =>
    obtain ⟨-, ⟨⟩⟩ := Option.ite_none_left_eq_some.mp asks
    cases first
  | disableNcasm | enableNoiseCancelling | enableAmbientSoundMode =>
    obtain ⟨-, asks⟩ := Option.ite_none_right_eq_some.mp asks
    split at asks <;> cases asks <;> cases first
  | _ =>
    obtain ⟨-, ⟨⟩⟩ := Option.ite_none_right_eq_some.mp asks
    cases first

/-- The first request of `mdr_device_init` is made when it is called. -/
theorem Sourced.first {called : DeviceCall → Prop} {past : List Event}
    {front back : List DeviceEvent} {data : CallbackData} {request : DeviceRequest}
    (sourced : Sourced called past (front ++ .requested data request :: back))
    (first : request.resultCallback = .initResultProtocolInfo) :
    ∃ callbacks, front.getLast? = some (.started data.ticket .init callbacks) := by
  rcases sourced front _ back rfl with ⟨operation, callbacks, supported, last, asks⟩ | ⟨rfl, -⟩
  · obtain rfl := Operation.isInit asks first
    exact ⟨callbacks, last⟩
  · cases first

/-- Every request is made for an operation that makes it. -/
theorem Sourced.made {called : DeviceCall → Prop} {past : List Event} {log : List DeviceEvent}
    (sourced : Sourced called past log) {data : CallbackData} {request : DeviceRequest}
    (isMade : .requested data request ∈ log) :
    ∃ operation callbacks, .started data.ticket operation callbacks ∈ log ∧
      operation.Makes request := by
  obtain ⟨front, back, rfl⟩ := List.append_of_mem isMade
  rcases sourced front _ back rfl with ⟨operation, callbacks, supported, last, asks⟩ |
    ⟨rfl, first, request, -, isTicket, isFirst, callback⟩
  · exact ⟨operation, callbacks, List.mem_append_left _ (List.mem_of_getLast? last),
      .inl ⟨supported, asks⟩⟩
  · obtain ⟨early, late, rfl⟩ := List.append_of_mem isFirst
    rw [List.append_assoc, List.cons_append] at sourced
    obtain ⟨callbacks, last⟩ := sourced.first callback
    rw [isTicket] at last
    exact ⟨.init, callbacks, List.mem_append_left _ (List.mem_append_left _
      (List.mem_of_getLast? last)), .inr ⟨rfl, rfl⟩⟩

/-! ## Runs -/

theorem DeviceRequest.Gives.append {request : DeviceRequest} {past : List Event}
    {args : CallbackArgs} (gives : request.Gives past args) (more : List Event) :
    request.Gives (past ++ more) args := by
  rcases gives with ⟨none, only, frame, isRead, isAck⟩ | ⟨packet, isParsed, isMatch, reads⟩
  · refine .inl ⟨none, only, frame, ?_, isAck⟩
    rw [receivedIn_append]
    exact List.mem_append_left _ isRead
  · refine .inr ⟨packet, ?_, isMatch, reads⟩
    rw [parsedIn_append]
    exact List.mem_append_left _ isParsed

theorem SupportedFunctions.ReportedIn.append {past : List Event} {supported : SupportedFunctions}
    (reported : supported.ReportedIn past) (more : List Event) :
    supported.ReportedIn (past ++ more) := by
  obtain ⟨packets, areParsed, same⟩ := reported
  refine ⟨packets, fun packet isIn => ?_, same⟩
  rw [parsedIn_append]
  exact List.mem_append_left _ (areParsed packet isIn)

theorem DeviceSubscription.MadeIn.append {node : DeviceSubscription} {called : DeviceCall → Prop}
    {past : List Event} {log : List DeviceEvent} (made : node.MadeIn called past log)
    (more : List Event) : node.MadeIn called (past ++ more) log := by
  obtain ⟨operation, supported, subscribe, isCalled, reported, opens, isSubscribed⟩ := made
  exact ⟨operation, supported, subscribe, isCalled, reported.append more, opens, isSubscribed⟩

theorem Device.Sourced.later {called : DeviceCall → Prop} {past : List Event} {d : Device}
    (sourced : d.Sourced called past) (more : List Event) : d.Sourced called (past ++ more) := by
  refine ⟨fun front event back split => ?_, sourced.reported.append more,
    fun nodes isNodes node isIn => (sourced.nodes nodes isNodes node isIn).append more⟩
  have justified := sourced.record front event back split
  cases event with
  | started ticket operation callbacks =>
    obtain ⟨supported, reported, asks⟩ := justified
    exact ⟨supported, reported.append more, asks⟩
  | answered ticket answer =>
    intro args isResult
    obtain ⟨data, request, isMade, isTicket, gives⟩ := justified args isResult
    exact ⟨data, request, isMade, isTicket, gives.append more⟩
  | updated fn args userData =>
    obtain ⟨node, made, isFn, isData, subscription, packet, update, told, isUpdate⟩ := justified
    refine ⟨node, made.append more, isFn, isData, subscription, packet, update, ?_, isUpdate⟩
    rw [notifiedIn_append]
    exact List.mem_append_left _ told
  | _ => exact justified

namespace DeviceConn

variable {env : Env} {deviceEnv : DeviceEnv} {x x' : DeviceConn}

/-- The calls that user code makes in a run: from outside, or in a callback. -/
def CalledIn (deviceEnv : DeviceEnv) (calls : List Call) (c : DeviceCall) : Prop :=
  .user c ∈ calls ∨ ∃ k, c ∈ deviceEnv.script k

theorem Reached.call_sourced {asked : DeviceCall → Prop} {c : Call} (reached : x.Reached env)
    (scripted : ∀ k, ∀ c ∈ deviceEnv.script k, asked c) (isAsked : ∀ c', c = .user c' → asked c')
    (sourced : x.device.Sourced asked x.conn.log) (called : x.call env deviceEnv c = some x') :
    x'.device.Sourced asked x'.conn.log := by
  obtain ⟨fconn, host, whole⟩ := (reached.call called).records
  obtain ⟨called, -⟩ := Option.filter_eq_some_iff.mp called
  cases c with
  | user c =>
    obtain ⟨device, ran, run⟩ := Option.bind_eq_some_iff.mp called
    obtain ⟨conn, made, run⟩ := Option.bind_eq_some_iff.mp run
    cases run
    obtain ⟨new, log, -, -⟩ := userCalls_asked made
    have now := Device.call_sourced (Device.userCode_keepsSourced _ scripted _) sourced
      (isAsked c rfl) ran
    have later := now.later (new.map .accepted)
    rwa [← log] at later
  | process now readable writable =>
    obtain ⟨⟨result, conn⟩, processed, run⟩ := Option.bind_eq_some_iff.mp called
    obtain ⟨device, followed, run⟩ := Option.bind_eq_some_iff.mp run
    cases run
    obtain ⟨events, log, -⟩ := process_ran processed
    refine reached.process_invariant processed followed
      (fun _ e => e.Sourced asked conn.log) ?_ (log ▸ sourced.later events)
    rintro front event back l e e' more split coupled called - - now
    refine Device.callback_sourced (Device.userCode_keepsSourced _ scripted _) now coupled ?_ ?_
      called
    · rintro call rfl
      have isCall : .called call ∈ conn.log := split ▸ List.mem_append_right _ List.mem_cons_self
      exact ⟨whole.expected rfl front call back split, whole.fromRead isCall⟩
    · rintro subscription packet rfl
      exact List.mem_filterMap.mpr
        ⟨_, split ▸ List.mem_append_right _ List.mem_cons_self, rfl⟩

theorem run_sourced {calls : List Call} {fconn : FrameConn} {host : Host}
    (ran : (start fconn host).run env deviceEnv calls = some x) :
    x.Reached env ∧ x.device.Sourced (CalledIn deviceEnv calls) x.conn.log := by
  refine Trace.foldlM_related (fun x x' : DeviceConn =>
    x.Reached env ∧ x.device.Sourced (CalledIn deviceEnv calls) x.conn.log →
      x'.Reached env ∧ x'.device.Sourced (CalledIn deviceEnv calls) x'.conn.log)
    (fun _ => id) (fun _ _ _ front back now => back (front now)) ?_ ran
    ⟨reached_start env fconn host, .nil _ _, ⟨[], (fun _ isIn => by cases isIn), rfl⟩, ?_⟩
  · rintro y c z isIn called ⟨reached, sourced⟩
    exact ⟨reached.call called, reached.call_sourced (fun k c isScript => .inr ⟨k, isScript⟩)
      (fun c' isUser => .inl (isUser ▸ isIn)) sourced called⟩
  · rintro _ ⟨⟩ node isIn
    cases isIn

/-- Where the arguments of a user's callback come from: an ACK was read, and there are none; or a
data frame was read, it holds a packet that the request waits for, and the callback of the request
reads them of this packet. -/
def ReadFor (env : Env) (request : DeviceRequest) (log : List Event) (args : CallbackArgs) : Prop :=
  (args = .nothing ∧ request.replySpecifier.onlyAck = true ∧
    ∃ frame ∈ receivedIn log, frame.dataType = frameDataTypeAck) ∨
  ∃ frame ∈ dataIn log, ∃ packet, frame.ReadAs env (some packet) ∧
    replySpecifierMatches request.replySpecifier packet = true ∧
    request.resultCallback.read packet = some (some args)

/-- **Answers are read off the wire.** In every run, what the result callback of an operation is
called with was read for a request of this very operation: it is the callback that the user gave,
and its arguments are what the operation reads of a packet in a data frame that was read, and that
its request waits for; or an ACK was read and they are none. -/
theorem answer_read {calls : List Call} {fconn : FrameConn} {host : Host}
    (ran : (start fconn host).run env deviceEnv calls = some x) {ticket : Ticket} {answer : Answer}
    {args : CallbackArgs} (isAnswer : .answered ticket answer ∈ x.device.log)
    (isResult : answer.reply = .result args) :
    ∃ operation callbacks request, .started ticket operation callbacks ∈ x.device.log ∧
      callbacks.result = some answer.fn ∧ callbacks.userData = answer.userData ∧
      operation.Makes request ∧ ReadFor env request x.conn.log args := by
  obtain ⟨reached, sourced⟩ := run_sourced ran
  obtain ⟨front, back, split⟩ := List.append_of_mem isAnswer
  obtain ⟨data, request, isMade, rfl, gives⟩ := sourced.record front _ back split args isResult
  have isMade : .requested data request ∈ x.device.log := split ▸ List.mem_append_left _ isMade
  obtain ⟨operation, callbacks, isStarted, makes⟩ := sourced.record.made isMade
  have sound := Ledger.sound reached.coupled.kept
  obtain ⟨others, isOther, isOf⟩ :=
    sound.known.answers (data.ticket, answer) (List.mem_filterMap.mpr ⟨_, isAnswer, rfl⟩)
  obtain rfl := sound.callbacks_ext isOther (List.mem_filterMap.mpr ⟨_, isStarted, rfl⟩)
  obtain ⟨isFn, userData⟩ := isOf
  rw [isResult] at isFn
  refine ⟨operation, others, request, isStarted, isFn, userData.symm, makes, ?_⟩
  rcases gives with acked | ⟨packet, isParsed, isMatch, reads⟩
  · exact .inl acked
  · obtain ⟨asked, ran, -, -⟩ := run_conn (reached_start env fconn host) ran
    obtain ⟨frame, isData, isRead⟩ := (run_digested ran).decoded isParsed
    exact .inr ⟨frame, isData, packet, isRead, isMatch, reads⟩

/-- `answer_read` on a model name of two characters, with the ACK of the request and the reply. -/
theorem answer_read_model_name :
    let process : Call := .process ⟨0, 0⟩ true true
    let args : CallbackArgs := .string 2 [0x58, 0x4d]
    ∃ x, (start .fresh (.listing [.data [0x3e, 1, 1, 0, 0, 0, 0, 2, 0x3c],
          .data [0x3e, 12, 0, 0, 0, 0, 5, 5, 1, 2, 0x58, 0x4d, 0xbe, 0x3c]]
        [.wrote 100, .wrote 100])).run .idle .idle
        [.user (.request .getModelName .both), process, process] = some x ∧
      .answered 0 { fn := 0, reply := .result args, userData := 7 } ∈ x.device.log ∧
      ∃ operation callbacks request, .started 0 operation callbacks ∈ x.device.log ∧
        callbacks.result = some 0 ∧ callbacks.userData = 7 ∧
        operation.Makes request ∧ ReadFor .idle request x.conn.log args := by
  intro process args
  obtain ⟨x, ran, shown⟩ := (Option.any_eq_true _ _).mp (show ((start .fresh (.listing
        [.data [0x3e, 1, 1, 0, 0, 0, 0, 2, 0x3c],
          .data [0x3e, 12, 0, 0, 0, 0, 5, 5, 1, 2, 0x58, 0x4d, 0xbe, 0x3c]]
        [.wrote 100, .wrote 100])).run .idle .idle
        [.user (.request .getModelName .both), process, process]).any
      (fun x => .answered 0 { fn := 0, reply := .result args, userData := 7 } ∈ x.device.log) =
        true by decide +kernel)
  have isAnswer := of_decide_eq_true shown
  exact ⟨x, ran, isAnswer, answer_read ran isAnswer rfl⟩

/-- **Operations are what was reported.** In every run, an operation that passed its gate passed it
on what packets reported, each of which a data frame held that was read. -/
theorem started_reported {calls : List Call} {fconn : FrameConn} {host : Host}
    (ran : (start fconn host).run env deviceEnv calls = some x) {ticket : Ticket}
    {operation : Operation} {callbacks : UserCallbacks}
    (isStarted : .started ticket operation callbacks ∈ x.device.log) :
    ∃ packets : List Packet,
      (∀ packet ∈ packets, ∃ frame ∈ dataIn x.conn.log, frame.ReadAs env (some packet)) ∧
        (operation.request (supportedBy packets)).isSome := by
  obtain ⟨front, back, split⟩ := List.append_of_mem isStarted
  obtain ⟨supported, ⟨packets, areParsed, rfl⟩, asks⟩ :=
    (run_sourced ran).2.record front _ back split
  obtain ⟨asked, ran, -, -⟩ := run_conn (reached_start env fconn host) ran
  exact ⟨packets, fun packet isIn => (run_digested ran).decoded (areParsed packet isIn), asks⟩

/-- `started_reported` on headphones that can be switched off. -/
theorem started_reported_power_off :
    let env : Env := { Env.idle with
      script := fun k => if k = 0 then connCalls [.requested ⟨1, 0, .both⟩
        Device.supportFunctionRequest] else [] }
    let process : Call := .process ⟨0, 0⟩ true true
    ∃ x, (start .fresh (.listing
        [.data [0x3e, 1, 1, 0, 0, 0, 0, 2, 0x3c],
          .data [0x3e, 12, 0, 0, 0, 0, 4, 1, 0, 1, 2, 20, 0x3c],
          .data [0x3e, 1, 0, 0, 0, 0, 0, 1, 0x3c],
          .data [0x3e, 12, 1, 0, 0, 0, 4, 7, 0, 1, 0x21, 58, 0x3c]]
        [.wrote 100, .wrote 100, .wrote 100, .wrote 100])).run env .idle
        [.user (.request .init .both), process, process, process, process,
          .user (.request .powerOff .both)] = some x ∧
      ∃ packets : List Packet,
        (∀ packet ∈ packets, ∃ frame ∈ dataIn x.conn.log, frame.ReadAs env (some packet)) ∧
          (Operation.powerOff.request (supportedBy packets)).isSome := by
  intro env process
  obtain ⟨x, ran, shown⟩ := (Option.any_eq_true _ _).mp (show ((start .fresh (.listing
        [.data [0x3e, 1, 1, 0, 0, 0, 0, 2, 0x3c],
          .data [0x3e, 12, 0, 0, 0, 0, 4, 1, 0, 1, 2, 20, 0x3c],
          .data [0x3e, 1, 0, 0, 0, 0, 0, 1, 0x3c],
          .data [0x3e, 12, 1, 0, 0, 0, 4, 7, 0, 1, 0x21, 58, 0x3c]]
        [.wrote 100, .wrote 100, .wrote 100, .wrote 100])).run env .idle
        [.user (.request .init .both), process, process, process, process,
          .user (.request .powerOff .both)]).any
      (fun x => .started 1 .powerOff .both ∈ x.device.log) = true by decide +kernel)
  have isStarted := of_decide_eq_true shown
  exact ⟨x, ran, started_reported ran isStarted⟩

end DeviceConn

end Libmdr
