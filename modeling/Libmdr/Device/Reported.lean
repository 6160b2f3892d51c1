import Libmdr.Device.Run
import Libmdr.PacketConn.Completion

/-!
# The functions that a device has reported

The flags of a device are those of the functions in the replies to `mdr_device_init`, in any run:
only `mdr_device_init_result_supported_function` sets them, and it never clears one.
-/

namespace Libmdr
set_option autoImplicit false

/-! ## Flags of a list -/

/-- The flags of a new device that has reported these functions. -/
def SupportedFunctions.ofList (types : List SupportFunctionType) : SupportedFunctions :=
  types.foldl .add .empty

theorem SupportedFunctions.ofList_append (xs ys : List SupportFunctionType) :
    ofList (xs ++ ys) = ys.foldl .add (ofList xs) := List.foldl_append

/-- A flag is set by the functions that set it, in any order and any number of times. -/
theorem SupportedFunctions.foldl_flag {flag : SupportedFunctions → Bool}
    {sets : SupportFunctionType → Bool} (add : ∀ s t, flag (s.add t) = (sets t || flag s))
    (types : List SupportFunctionType) (s : SupportedFunctions) :
    flag (types.foldl .add s) = (types.any sets || flag s) := by
  induction types generalizing s with
  | nil => rfl
  | cons t rest ih => rw [List.foldl_cons, ih, add, List.any_cons, ← Bool.or_assoc, Bool.or_comm (sets t)]

/-- What each flag says about the functions that were reported. -/
structure SupportedFunctions.Shows (s : SupportedFunctions) (types : List SupportFunctionType) :
    Prop where
  powerOff : s.powerOff = true ↔ .powerOff ∈ types
  battery : s.battery = true ↔ .batteryLevel ∈ types
  leftRightBattery : s.leftRightBattery = true ↔ .leftRightBatteryLevel ∈ types
  cradleBattery : s.cradleBattery = true ↔ .cradleBatteryLevel ∈ types
  noiseCancelling : s.noiseCancelling = true ↔
    .noiseCancelling ∈ types ∨ .noiseCancellingAndAmbientSoundMode ∈ types
  ambientSoundMode : s.ambientSoundMode = true ↔
    .ambientSoundMode ∈ types ∨ .noiseCancellingAndAmbientSoundMode ∈ types
  leftRightConnectionStatus : s.leftRightConnectionStatus = true ↔ .leftRightConnectionStatus ∈ types
  eq : s.eq = true ↔ .presetEq ∈ types
  eqNonCustomizable : s.eqNonCustomizable = true ↔ .presetEqNoncustomizable ∈ types
  autoPowerOff : s.autoPowerOff = true ↔ .autoPowerOff ∈ types
  playbackController : s.playbackController = true ↔ .playbackController ∈ types
  assignableSettings : s.assignableSettings = true ↔ .assignableSettings ∈ types

/-- A flag that one function type sets is set when the list has that type. -/
theorem SupportedFunctions.ofList_flag {flag : SupportedFunctions → Bool} {type : SupportFunctionType}
    (add : ∀ s t, flag (s.add t) = (decide (t = type) || flag s)) (clear : flag .empty = false)
    (types : List SupportFunctionType) : flag (ofList types) = true ↔ type ∈ types := by
  rw [ofList, foldl_flag add, clear, Bool.or_false, List.any_eq_true]
  simp only [decide_eq_true_eq, exists_eq_right]

theorem SupportedFunctions.ofList_flag_or {flag : SupportedFunctions → Bool}
    {type other : SupportFunctionType}
    (add : ∀ s t, flag (s.add t) = (decide (t = type ∨ t = other) || flag s))
    (clear : flag .empty = false) (types : List SupportFunctionType) :
    flag (ofList types) = true ↔ type ∈ types ∨ other ∈ types := by
  rw [ofList, foldl_flag add, clear, Bool.or_false, List.any_eq_true]
  simp only [decide_eq_true_eq, and_or_left, exists_or, exists_eq_right]

/-- The flags show what is in the list that they were made of. -/
theorem SupportedFunctions.shows_ofList (types : List SupportFunctionType) :
    (ofList types).Shows types where
  powerOff := ofList_flag (fun _ t => by cases t <;> rfl) rfl types
  battery := ofList_flag (fun _ t => by cases t <;> rfl) rfl types
  leftRightBattery := ofList_flag (fun _ t => by cases t <;> rfl) rfl types
  cradleBattery := ofList_flag (fun _ t => by cases t <;> rfl) rfl types
  noiseCancelling := ofList_flag_or (fun _ t => by cases t <;> rfl) rfl types
  ambientSoundMode := ofList_flag_or (fun _ t => by cases t <;> rfl) rfl types
  leftRightConnectionStatus := ofList_flag (fun _ t => by cases t <;> rfl) rfl types
  eq := ofList_flag (fun _ t => by cases t <;> rfl) rfl types
  eqNonCustomizable := ofList_flag (fun _ t => by cases t <;> rfl) rfl types
  autoPowerOff := ofList_flag (fun _ t => by cases t <;> rfl) rfl types
  playbackController := ofList_flag (fun _ t => by cases t <;> rfl) rfl types
  assignableSettings := ofList_flag (fun _ t => by cases t <;> rfl) rfl types

/-! ## Functions that leave the flags alone -/

/-- User code sets no flag. -/
def UserCode.KeepsFlags (user : UserCode) : Prop :=
  ∀ d d', user d = some d' → d'.supportedFunctions = d.supportedFunctions

namespace Device

variable {env : DeviceEnv} {user : UserCode} {d d' : Device} {ticket : Ticket}
  {callbacks : UserCallbacks} {data : CallbackData}

theorem answer_flags (keeps : user.KeepsFlags) {fn : FnPtr} {reply : Reply}
    (run : d.answer user ticket callbacks fn reply = some d') :
    d'.supportedFunctions = d.supportedFunctions :=
  keeps (d.record (.answered ticket { fn, reply, userData := callbacks.userData })) d' run

theorem answerError_flags (keeps : user.KeepsFlags)
    (run : d.answerError user ticket callbacks = some d') :
    d'.supportedFunctions = d.supportedFunctions := by
  unfold answerError at run
  split at run
  · cases run
    rfl
  · exact answer_flags keeps run

theorem answerResult_flags (keeps : user.KeepsFlags) {read : Option (Option CallbackArgs)}
    (run : d.answerResult user ticket callbacks read = some d') :
    d'.supportedFunctions = d.supportedFunctions := by
  unfold answerResult at run
  split at run
  · cases run
    rfl
  · obtain ⟨args, -, run⟩ := Option.bind_eq_some_iff.mp run
    cases args with
    | none =>
      cases run
      rfl
    | some args => exact answer_flags keeps run

theorem makeRequest_flags (keeps : user.KeepsFlags) {request : DeviceRequest}
    (run : d.makeRequest env user request ticket callbacks = some d') :
    d'.supportedFunctions = d.supportedFunctions := by
  unfold makeRequest at run
  split at run
  · rename_i e failed
    obtain ⟨-, rfl⟩ := Prod.mk.inj failed
    have same := answerError_flags keeps run
    exact same
  · rename_i e allocated
    obtain ⟨-, rfl⟩ := Prod.mk.inj allocated
    cases run
    rfl

theorem addSubscription_flags {subscribe : DeviceSubscribe} {update : Option FnPtr}
    {userData : Nat} (run : d.addSubscription env subscribe update userData = some d') :
    d'.supportedFunctions = d.supportedFunctions := by
  unfold addSubscription at run
  split at run
  · rename_i e failed
    obtain ⟨-, rfl⟩ := Prod.mk.inj failed
    cases run
    rfl
  · rename_i e allocated
    obtain ⟨-, rfl⟩ := Prod.mk.inj allocated
    dsimp only at run
    split at run
    · cases run
      rfl
    · obtain ⟨nodes, -, run⟩ := Option.bind_eq_some_iff.mp run
      cases run
      rfl

theorem removeSubscription_flags {address : Address}
    (run : d.removeSubscription address = some d') :
    d'.supportedFunctions = d.supportedFunctions := by
  obtain ⟨nodes, -, run⟩ := Option.bind_eq_some_iff.mp run
  split at run
  · cases run
    rfl
  · cases run
    rfl

/-- No operation sets a flag, and user code that sets none leaves them alone. -/
theorem call_flags (keeps : user.KeepsFlags) {c : DeviceCall} (run : d.call env user c = some d') :
    d'.supportedFunctions = d.supportedFunctions := by
  cases c with
  | request operation callbacks =>
    unfold call at run
    dsimp only at run
    split at run
    · cases run
      rfl
    · have same := makeRequest_flags keeps run
      exact same
  | subscribe operation update userData =>
    unfold call at run
    dsimp only at run
    split at run
    · cases run
      rfl
    · exact addSubscription_flags run
  | removeSubscription address => exact removeSubscription_flags run

/-- By induction on how deep calls of the user are followed. -/
theorem userCode_keepsFlags (env : DeviceEnv) (depth : Nat) :
    UserCode.KeepsFlags (userCode env depth) := by
  induction depth with
  | zero => exact fun d d' run => by cases run
  | succ depth ih =>
    intro d d' run
    have same := Trace.foldlM_invariant (fun e => e.supportedFunctions = d.supportedFunctions)
      (fun e c e' first same => (call_flags ih first).trans same) run rfl
    exact same

/-! ## Callbacks of the packet connection -/

theorem errorCallbackPassthrough_flags (keeps : user.KeepsFlags)
    (run : d.errorCallbackPassthrough user data = some d') :
    d'.supportedFunctions = d.supportedFunctions := by
  obtain ⟨e, answers, run⟩ := Option.bind_eq_some_iff.mp run
  cases run
  have same := answerError_flags keeps answers
  exact same

theorem resultCallbackPassthrough_flags (keeps : user.KeepsFlags)
    {read : Option (Option CallbackArgs)}
    (run : d.resultCallbackPassthrough user read data = some d') :
    d'.supportedFunctions = d.supportedFunctions := by
  obtain ⟨e, answers, run⟩ := Option.bind_eq_some_iff.mp run
  cases run
  have same := answerResult_flags keeps answers
  exact same

theorem initResultProtocolInfo_flags (keeps : user.KeepsFlags)
    (run : d.initResultProtocolInfo env user data = some d') :
    d'.supportedFunctions = d.supportedFunctions := by
  obtain ⟨e, makes, run⟩ := Option.bind_eq_some_iff.mp run
  cases run
  have same := makeRequest_flags keeps makes
  exact same

theorem runGetEqCapabilitiesResult_flags (keeps : user.KeepsFlags)
    {read : Option (Option CallbackArgs)}
    (run : d.runGetEqCapabilitiesResult env user read data = some d') :
    d'.supportedFunctions = d.supportedFunctions := by
  unfold runGetEqCapabilitiesResult at run
  split at run
  · exact resultCallbackPassthrough_flags keeps run
  · obtain ⟨args, -, run⟩ := Option.bind_eq_some_iff.mp run
    split at run
    · rename_i e failed
      obtain ⟨-, rfl⟩ := Prod.mk.inj failed
      have same := errorCallbackPassthrough_flags keeps run
      exact same
    · rename_i e allocated
      obtain ⟨-, rfl⟩ := Prod.mk.inj allocated
      have same := resultCallbackPassthrough_flags keeps run
      exact same

theorem updateCallback_flags (keeps : user.KeepsFlags) {callback : UpdateCallback} {packet : Packet}
    {node : DeviceSubscription} (run : d.updateCallback user callback packet node = some d') :
    d'.supportedFunctions = d.supportedFunctions := by
  unfold updateCallback at run
  split at run
  · cases run
    rfl
  · obtain ⟨args, -, run⟩ := Option.bind_eq_some_iff.mp run
    cases args with
    | none =>
      cases run
      rfl
    | some args =>
      have same := keeps _ _ run
      exact same

end Device

/-! ## What is reported -/

/-- The functions in a reply to the second request of `mdr_device_init`. -/
def Called.reported (call : Called) : List SupportFunctionType :=
  match call.arg with
  | .result (some packet) =>
    if call.fn = ResultCallback.initResultSupportedFunction.fnPtr then
      match packet.connectRetSupportFunction? with
      | some ret => ret.functionTypes.take ret.numFunctionTypes.toNat
      | none => []
    else []
  | _ => []

/-- The functions that were reported, in order. -/
def reportedIn (log : List Event) : List SupportFunctionType := (callsIn log).flatMap Called.reported

theorem reportedIn_append (xs ys : List Event) :
    reportedIn (xs ++ ys) = reportedIn xs ++ reportedIn ys := by
  rw [reportedIn, callsIn_append, List.flatMap_append]
  rfl

theorem Called.reported_of_other {fn : FnPtr}
    (other : fn ≠ ResultCallback.initResultSupportedFunction.fnPtr) (handle : Handle)
    (arg : CallArg) (userData : Nat) : reported { handle, fn, arg, userData } = [] := by
  unfold reported
  split
  · exact if_neg other
  · rfl

/-- The function at an address is the one that has it. -/
theorem ResultCallback.fnPtr_of_ofFnPtr {fn : FnPtr} {callback : ResultCallback}
    (isCallback : ofFnPtr fn = some callback) : fn = callback.fnPtr := by
  obtain ⟨small, rfl⟩ := List.getElem?_eq_some_iff.mp isCallback
  have once : values.Nodup := by decide
  exact (once.idxOf_getElem fn small).symm

namespace Device

variable {env : DeviceEnv} {user : UserCode} {d d' : Device} {data : CallbackData}

/-- The callbacks of a request: one of them sets flags. -/
theorem resultCallback_flags (keeps : user.KeepsFlags) {callback : ResultCallback}
    {packet : Option Packet} (run : d.resultCallback env user callback packet data = some d')
    (handle : Handle) (userData : Nat) :
    d'.supportedFunctions =
      (Called.reported { handle, fn := callback.fnPtr, arg := .result packet, userData }).foldl .add
        d.supportedFunctions := by
  cases callback with
  | initResultSupportedFunction =>
    obtain ⟨p, rfl, run⟩ := Option.bind_eq_some_iff.mp run
    obtain ⟨e, adds, run⟩ := Option.bind_eq_some_iff.mp run
    obtain ⟨ret, isRet, adds⟩ := Option.bind_eq_some_iff.mp adds
    cases adds
    have same := resultCallbackPassthrough_flags keeps run
    rw [same, Called.reported]
    dsimp only
    rw [if_pos rfl, isRet]
  | successCallbackPassthrough =>
    rw [Called.reported_of_other (by decide)]
    exact resultCallbackPassthrough_flags keeps run
  | initResultProtocolInfo =>
    rw [Called.reported_of_other (by decide)]
    exact initResultProtocolInfo_flags keeps run
  | getEqCapabilitiesResult =>
    rw [Called.reported_of_other (by decide)]
    exact runGetEqCapabilitiesResult_flags keeps run
  | _ =>
    rw [Called.reported_of_other (by decide)]
    exact resultCallbackPassthrough_flags keeps run

/-- A callback adds what is reported to it. -/
theorem callback_flags (keeps : user.KeepsFlags) {event : Event}
    (run : d.callback env user event = some d') :
    d'.supportedFunctions = (reportedIn [event]).foldl .add d.supportedFunctions := by
  cases event with
  | called call =>
    obtain ⟨data, -, run⟩ := Option.bind_eq_some_iff.mp run
    obtain ⟨handle, fn, arg, userData⟩ := call
    cases arg with
    | result packet =>
      obtain ⟨callback, isCallback, ran⟩ := Option.bind_eq_some_iff.mp run
      have same := resultCallback_flags keeps ran handle userData
      rw [← ResultCallback.fnPtr_of_ofFnPtr isCallback] at same
      have only : reportedIn [.called { handle, fn, arg := .result packet, userData }] =
          Called.reported { handle, fn, arg := .result packet, userData } := List.append_nil _
      rw [only, same]
      rfl
    | error errno =>
      obtain ⟨-, run⟩ := Option.ite_none_right_eq_some.mp run
      have same := errorCallbackPassthrough_flags keeps run
      exact same
  | notified subscription packet =>
    obtain ⟨update, node, run⟩ := callback_notified run
    exact updateCallback_flags keeps run
  | _ =>
    cases run
    rfl

theorem reportedIn_of_notCallback {event : Event} (other : event.IsCallback = false) :
    reportedIn [event] = [] := by
  cases event with
  | called call => cases other
  | _ => rfl

/-- By induction on the record of the packet connection. -/
theorem follow_flags {connEnv : Env} {events : List Event} {k : Nat}
    (run : d.follow connEnv env events k = some d') :
    d'.supportedFunctions = (reportedIn events).foldl .add d.supportedFunctions := by
  induction events generalizing d k with
  | nil =>
    cases run
    rfl
  | cons event rest ih =>
    rw [← List.singleton_append, reportedIn_append, List.foldl_append]
    unfold follow at run
    split at run
    · obtain ⟨e, called, run⟩ := Option.bind_eq_some_iff.mp run
      obtain ⟨-, run⟩ := Option.ite_none_right_eq_some.mp run
      rw [ih run, callback_flags (userCode_keepsFlags env _) called]
    · rename_i other
      rw [ih run, reportedIn_of_notCallback (Bool.eq_false_iff.mpr other)]
      rfl

end Device

/-! ## Runs -/

theorem reportedIn_map_accepted (requests : List Request) :
    reportedIn (requests.map .accepted) = [] := by
  rw [reportedIn, callsIn_map_accepted]
  rfl

namespace DeviceConn

variable {env : Env} {deviceEnv : DeviceEnv} {x x' : DeviceConn}

/-- The flags of the device are those of the functions in the record of its connection. -/
def FlagsReported (x : DeviceConn) : Prop :=
  x.device.supportedFunctions = .ofList (reportedIn x.conn.log)

theorem flagsReported_start (fconn : FrameConn) (host : Host) :
    (start fconn host).FlagsReported := rfl

/-- A call of the device keeps the flags in step with what was reported. -/
theorem FlagsReported.call {c : Call} (flags : x.FlagsReported)
    (called : x.call env deviceEnv c = some x') : x'.FlagsReported := by
  obtain ⟨called, -⟩ := Option.filter_eq_some_iff.mp called
  cases c with
  | user c =>
    obtain ⟨device, ran, run⟩ := Option.bind_eq_some_iff.mp called
    obtain ⟨conn, made, run⟩ := Option.bind_eq_some_iff.mp run
    cases run
    obtain ⟨new, log, -, -⟩ := userCalls_asked made
    have same := Device.call_flags (Device.userCode_keepsFlags deviceEnv _) ran
    rw [FlagsReported, same, log, reportedIn_append, reportedIn_map_accepted, List.append_nil]
    exact flags
  | process now readable writable =>
    obtain ⟨⟨result, conn⟩, processed, run⟩ := Option.bind_eq_some_iff.mp called
    obtain ⟨device, followed, run⟩ := Option.bind_eq_some_iff.mp run
    cases run
    obtain ⟨events, log, -⟩ := process_ran processed
    dsimp only at log followed
    rw [log, List.drop_left] at followed
    rw [FlagsReported, log, reportedIn_append, SupportedFunctions.ofList_append,
      Device.follow_flags followed, flags]

/-- **The flags are those of the functions that were reported**, in any run. -/
theorem flagsReported_of_run {calls : List Call} {fconn : FrameConn} {host : Host}
    (ran : (start fconn host).run env deviceEnv calls = some x) : x.FlagsReported :=
  Trace.foldlM_invariant FlagsReported (fun _ _ _ first flags => flags.call first) ran
    (flagsReported_start fconn host)

/-! ## A small device -/

/-- The user calls `mdr_device_init` only, and the first callback makes its second request. -/
def initEnv : Env :=
  { Env.idle with
    script := fun k =>
      if k = 0 then connCalls [.requested ⟨1, 0, .both⟩ Device.supportFunctionRequest] else [] }

/-- `mdr_device_init` on a device that reports the functions of these bytes, in a frame with this
checksum. -/
def initReporting (types : List UInt8) (checksum : UInt8) : Option DeviceConn :=
  let reply : List UInt8 :=
    [0x3e, 12, 1, 0, 0, 0, 3 + types.length.toUInt8, 7, 0, types.length.toUInt8] ++ types ++
      [checksum, 0x3c]
  let process : Call := .process ⟨0, 0⟩ true true
  (start .fresh (.listing
      [.data [0x3e, 1, 1, 0, 0, 0, 0, 2, 0x3c],
        .data [0x3e, 12, 0, 0, 0, 0, 4, 1, 0, 1, 2, 20, 0x3c],
        .data [0x3e, 1, 0, 0, 0, 0, 0, 1, 0x3c], .data reply]
      [.wrote 100, .wrote 100, .wrote 100, .wrote 100])).run initEnv .idle
    [.user (.request .init .both), process, process, process, process]

theorem initReporting_some {types : List UInt8} {checksum : UInt8}
    {reported : List SupportFunctionType}
    (runs : (initReporting types checksum).any (fun x => reportedIn x.conn.log = reported) = true) :
    ∃ x, initReporting types checksum = some x ∧ reportedIn x.conn.log = reported := by
  obtain ⟨x, ran, reports⟩ := (Option.any_eq_true _ _).mp runs
  exact ⟨x, ran, of_decide_eq_true reports⟩

end DeviceConn

end Libmdr
