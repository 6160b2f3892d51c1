import Libmdr.Device.Refinement
import Libmdr.Device.Reported
import Libmdr.Device.Settings
import Libmdr.PacketConn.Subscriptions

/-!
# The gates of the operations

`include/mdr/device.h` says for an operation which functions the device must support. The gate
of the operation tests the flags, and where the two agree the operation makes its request
exactly when the device has reported what the header asks for.
-/

namespace Libmdr
set_option autoImplicit false

/-- `MDR_E_NOT_SUPPORTED`. -/
def mdrENotSupported : Errno := -7

/-- The device has reported a function for which `noise_cancelling` is set. -/
def ReportsNoiseCancelling (types : List SupportFunctionType) : Prop :=
  .noiseCancelling ∈ types ∨ .noiseCancellingAndAmbientSoundMode ∈ types

/-- The device has reported a function for which `ambient_sound_mode` is set. -/
def ReportsAmbientSoundMode (types : List SupportFunctionType) : Prop :=
  .ambientSoundMode ∈ types ∨ .noiseCancellingAndAmbientSoundMode ∈ types

instance (types : List SupportFunctionType) : Decidable (ReportsNoiseCancelling types) :=
  inferInstanceAs (Decidable (_ ∨ _))

instance (types : List SupportFunctionType) : Decidable (ReportsAmbientSoundMode types) :=
  inferInstanceAs (Decidable (_ ∨ _))

/-- "This function can only be called if …", from the comments of `include/mdr/device.h`, on the
functions that the device has reported. -/
def Operation.condition : Operation → Option (List SupportFunctionType → Prop)
  | powerOff => some (.powerOff ∈ ·)
  | getBatteryLevel => some (.batteryLevel ∈ ·)
  | getLeftRightBatteryLevel => some (.leftRightBatteryLevel ∈ ·)
  | getCradleBatteryLevel => some (.cradleBatteryLevel ∈ ·)
  | getLeftRightConnectionStatus => some (.leftRightConnectionStatus ∈ ·)
  | getNoiseCancellingEnabled => some ReportsNoiseCancelling
  | getAmbientSoundModeSettings => some ReportsAmbientSoundMode
  | disableNcasm => some fun types => ReportsNoiseCancelling types ∨ ReportsAmbientSoundMode types
  | enableNoiseCancelling => some ReportsNoiseCancelling
  | enableAmbientSoundMode _ _ => some ReportsAmbientSoundMode
  | getEqCapabilities => some (.presetEq ∈ ·)
  | getEqPresetAndLevels => some (.presetEq ∈ ·)
  | setEqPreset _ => some (.presetEq ∈ ·)
  | setEqLevels _ _ => some fun types => .presetEq ∈ types ∧ .presetEqNoncustomizable ∉ types
  | settingGetAutoPowerOffTimeouts => some (.autoPowerOff ∈ ·)
  | settingGetAutoPowerOff => some (.autoPowerOff ∈ ·)
  | settingDisableAutoPowerOff => some (.autoPowerOff ∈ ·)
  | settingEnableAutoPowerOff _ => some (.autoPowerOff ∈ ·)
  | settingGetAvailableButtonPresets => some (.assignableSettings ∈ ·)
  | settingGetActiveButtonPresets => some (.assignableSettings ∈ ·)
  | init | getModelName | getFwVersion | getSeriesAndColor | settingSetActiveButtonPresets _ _
  | playbackGetVolume | playbackSetVolume _ => none

/-- Where a gate is not what the header says: it is too narrow for a device with ambient sound
only, and too wide for one with an equalizer that is not customizable. -/
def Operation.Deviates (types : List SupportFunctionType) : Operation → Prop
  | disableNcasm => ReportsAmbientSoundMode types ∧ ¬ ReportsNoiseCancelling types
  | getEqCapabilities | getEqPresetAndLevels =>
    .presetEqNoncustomizable ∈ types ∧ .presetEq ∉ types
  | setEqLevels _ _ => .presetEq ∈ types ∧ .presetEqNoncustomizable ∈ types
  | _ => False

/-! ## Flags and conditions -/

section

variable {types : List SupportFunctionType} {s : SupportedFunctions}

/-- A gate that tests one flag. -/
theorem isSome_ite_iff {α : Type} {flag : Bool} {made : Option α} {reported : Prop}
    (shows : flag = true ↔ reported) (passes : made.isSome) :
    (if flag = true then made else none).isSome = true ↔ reported := by
  rw [← shows]
  split
  · rename_i isSet
    exact iff_of_true passes isSet
  · rename_i isClear
    exact iff_of_false (fun isSome => by cases isSome) isClear

theorem isSome_ite {α : Type} (p : Prop) [Decidable p] (a b : α) :
    (if p then some a else some b).isSome := by
  split
  · rfl
  · rfl

/-- A gate that is closed when two flags are clear. -/
theorem isSome_eq_iff {α : Type} (shows : s.Shows types) (a : α) :
    (if !s.eq && !s.eqNonCustomizable then none else some a).isSome = true ↔
      .presetEq ∈ types ∨ .presetEqNoncustomizable ∈ types := by
  rw [← shows.eq, ← shows.eqNonCustomizable]
  cases s.eq <;> cases s.eqNonCustomizable <;> simp

/-- An operation passes its gate when the header allows it, unless it deviates. -/
theorem Operation.opens_iff (shows : s.Shows types) {operation : Operation}
    {condition : List SupportFunctionType → Prop} (documented : operation.condition = some condition) :
    ((operation.request s).isSome = true ↔ condition types) ↔ ¬ operation.Deviates types := by
  cases operation with
  | disableNcasm =>
    cases documented
    have gate : (Device.disableNcasm s).isSome = true ↔ ReportsNoiseCancelling types :=
      isSome_ite_iff shows.noiseCancelling (isSome_ite _ _ _)
    change ((Device.disableNcasm s).isSome = true ↔ _ ∨ _) ↔ ¬ (_ ∧ _)
    rw [gate]
    exact iff_self_or.trans not_and_not_right.symm
  | getEqCapabilities =>
    cases documented
    change ((Device.getEqCapabilities s).isSome = true ↔ _) ↔ ¬ (_ ∧ _)
    rw [Device.getEqCapabilities, isSome_eq_iff shows]
    exact or_iff_left_iff_imp.trans not_and_not_right.symm
  | getEqPresetAndLevels =>
    cases documented
    change ((Device.getEqPresetAndLevels s).isSome = true ↔ _) ↔ ¬ (_ ∧ _)
    rw [Device.getEqPresetAndLevels, isSome_eq_iff shows]
    exact or_iff_left_iff_imp.trans not_and_not_right.symm
  | setEqLevels numLevels levels =>
    cases documented
    have gate : (Device.setEqLevels numLevels levels s).isSome = true ↔ .presetEq ∈ types :=
      isSome_ite_iff shows.eq rfl
    change ((Device.setEqLevels numLevels levels s).isSome = true ↔ _ ∧ _) ↔ ¬ (_ ∧ _)
    rw [gate]
    exact iff_self_and.trans not_and.symm
  | powerOff =>
    cases documented
    exact iff_of_true (isSome_ite_iff shows.powerOff rfl) id
  | getBatteryLevel =>
    cases documented
    exact iff_of_true (isSome_ite_iff shows.battery rfl) id
  | getLeftRightBatteryLevel =>
    cases documented
    exact iff_of_true (isSome_ite_iff shows.leftRightBattery rfl) id
  | getCradleBatteryLevel =>
    cases documented
    exact iff_of_true (isSome_ite_iff shows.cradleBattery rfl) id
  | getLeftRightConnectionStatus =>
    cases documented
    exact iff_of_true (isSome_ite_iff shows.leftRightConnectionStatus rfl) id
  | getNoiseCancellingEnabled =>
    cases documented
    exact iff_of_true (isSome_ite_iff shows.noiseCancelling rfl) id
  | enableNoiseCancelling =>
    cases documented
    exact iff_of_true (isSome_ite_iff shows.noiseCancelling (isSome_ite _ _ _)) id
  | getAmbientSoundModeSettings =>
    cases documented
    exact iff_of_true (isSome_ite_iff shows.ambientSoundMode rfl) id
  | enableAmbientSoundMode level voice =>
    cases documented
    exact iff_of_true (isSome_ite_iff shows.ambientSoundMode (isSome_ite _ _ _)) id
  | setEqPreset presetId =>
    cases documented
    exact iff_of_true (isSome_ite_iff shows.eq rfl) id
  | settingGetAutoPowerOffTimeouts | settingGetAutoPowerOff | settingDisableAutoPowerOff
  | settingEnableAutoPowerOff time =>
    cases documented
    exact iff_of_true (isSome_ite_iff shows.autoPowerOff rfl) id
  | settingGetAvailableButtonPresets | settingGetActiveButtonPresets =>
    cases documented
    exact iff_of_true (isSome_ite_iff shows.assignableSettings rfl) id
  | _ => cases documented

end

/-! ## What an operation does -/

namespace DeviceConn

/-- `errno = e`. -/
def setErrno (e : Errno) (x : DeviceConn) : DeviceConn :=
  { x with conn := { x.conn with host := { x.conn.host with errno := e } } }

/-- An operation, with what it returns. -/
def operate (env : Env) (deviceEnv : DeviceEnv) (operation : Operation) (callbacks : UserCallbacks)
    (x : DeviceConn) : Option (Int × DeviceConn) := do
  let x' ← x.call env deviceEnv (.user (.request operation callbacks))
  match operation.request x.device.supportedFunctions with
  | none => return (-1, x'.setErrno mdrENotSupported)
  | some _ => return (0, x')

/-- `mdr_packetconn_make_request` is called with this record, and puts its request behind the
others. -/
structure Queued (env : Env) (operation : Operation) (request : DeviceRequest)
    (data : CallbackData) (accepted : Request) (x x' : DeviceConn) : Prop where
  calls : x'.device.log = x.device.log ++
    [.started x.device.nextTicket operation data.callbacks, .requested data request]
  queue : x'.conn.conn.queue = x.conn.conn.queue.enqueue accepted
  asked : accepted.asked = (request.replySpecifier,
    { result := some request.resultCallback.fnPtr, error := some errorCallbackPassthroughPtr,
      userData := data.address })
  frame : ∃ host, request.packet.toFrame env.heap x.conn.host = some (some accepted.frame, host)

/-- The connection and the subscriptions are as before. -/
structure Refused (x x' : DeviceConn) : Prop where
  errno : x'.conn.host.errno = mdrENotSupported
  conn : x'.conn.conn = x.conn.conn
  subscriptions : x'.device.subscriptions = x.device.subscriptions

/-- An operation makes its request when the condition holds, and is refused otherwise. -/
structure GateMatches (env : Env) (deviceEnv : DeviceEnv) (operation : Operation)
    (callbacks : UserCallbacks) (condition : Prop) (x : DeviceConn) : Prop where
  queues : condition → ∃ request data accepted x',
    operation.request x.device.supportedFunctions = some request ∧ data.callbacks = callbacks ∧
    x.operate env deviceEnv operation callbacks = some (0, x') ∧
    Queued env operation request data accepted x x'
  refuses : ¬ condition → ∃ x', x.operate env deviceEnv operation callbacks = some (-1, x') ∧
    Refused x x'

/-- The three allocations for an operation succeed: of its record, its frame and its node in the
queue. -/
structure HasMemory (env : Env) (deviceEnv : DeviceEnv) (x : DeviceConn) : Prop where
  record : deviceEnv.malloc x.device.mallocs = true
  frame : (env.heap x.conn.host.mallocs).isSome
  node : (env.heap (x.conn.host.mallocs + 1)).isSome

end DeviceConn

/-! ## Requests of one frame -/

theorem Packet.toFrame_mallocs {packet : Packet} {layout : Layout}
    (single : packet.layouts = some [layout]) {heap : Heap} {h h' : Host} {made : Option Frame}
    (run : packet.toFrame heap h = some (made, h')) :
    h'.mallocs = h.mallocs + 1 ∧ made.isSome = (heap h.mallocs).isSome := by
  rw [Packet.toFrame, single] at run
  exact layout.write_mallocs run

/-- A request is put behind the others when its frame and its node are allocated. -/
theorem makeRequest_cases {env : Env} {packet : Packet} {spec : ReplySpecifier}
    {callbacks : Callbacks} {s s' : State} {handle : Option Handle} {layout : Layout}
    (single : packet.layouts = some [layout])
    (made : makeRequest env packet spec callbacks s = some (handle, s')) :
    ((env.heap s.host.mallocs).isSome ∧ (env.heap (s.host.mallocs + 1)).isSome ∧
      ∃ accepted : Request, s'.conn.queue = s.conn.queue.enqueue accepted ∧
        accepted.asked = (spec, callbacks) ∧
        ∃ host, packet.toFrame env.heap s.host = some (some accepted.frame, host)) ∨
    (¬ ((env.heap s.host.mallocs).isSome ∧ (env.heap (s.host.mallocs + 1)).isSome) ∧
      s'.conn = s.conn) := by
  simp only [makeRequest, Option.bind_eq_bind, Option.bind_eq_some_iff] at made
  obtain ⟨⟨frame, host⟩, framed, made⟩ := made
  obtain ⟨mallocs, isFramed⟩ := packet.toFrame_mallocs single framed
  cases frame with
  | none =>
    cases made
    refine .inr ⟨fun both => ?_, rfl⟩
    rw [← isFramed] at both
    cases both.1
  | some frame =>
    rw [← isFramed, ← mallocs]
    cases block : env.heap host.mallocs with
    | none =>
      simp only [Host.malloc, block] at made
      cases made
      exact .inr ⟨(fun both => by cases both.2), rfl⟩
    | some junk =>
      simp only [Host.malloc, block] at made
      cases made
      exact .inl ⟨rfl, rfl, _, rfl, rfl, host, framed⟩

/-- The packet of an operation is sent in one frame. -/
theorem Operation.request_layouts {operation : Operation} {s : SupportedFunctions}
    {request : DeviceRequest} (counts : operation.CountsMatch)
    (asks : operation.request s = some request) :
    ∃ layout, request.packet.layouts = some [layout] := by
  cases operation with
  | init | getModelName | getFwVersion | getSeriesAndColor =>
    cases asks
    exact ⟨_, rfl⟩
  | disableNcasm | enableNoiseCancelling | enableAmbientSoundMode level voice =>
    obtain ⟨-, asks⟩ := Option.ite_none_right_eq_some.mp asks
    split at asks
    · cases asks
      exact ⟨_, rfl⟩
    · cases asks
      exact ⟨_, rfl⟩
  | getEqCapabilities | getEqPresetAndLevels =>
    obtain ⟨-, ⟨⟩⟩ := Option.ite_none_left_eq_some.mp asks
    exact ⟨_, rfl⟩
  | setEqPreset presetId =>
    obtain ⟨-, ⟨⟩⟩ := Option.ite_none_right_eq_some.mp asks
    cases s.eqNonCustomizable with
    | true => exact ⟨_, rfl⟩
    | false => exact ⟨_, rfl⟩
  | setEqLevels numLevels levels =>
    obtain ⟨-, ⟨⟩⟩ := Option.ite_none_right_eq_some.mp asks
    exact ⟨_, counted_eq_some counts⟩
  | settingSetActiveButtonPresets numPresets presets =>
    obtain ⟨-, ⟨⟩⟩ := Option.ite_none_right_eq_some.mp asks
    exact ⟨_, counted_eq_some counts⟩
  | _ =>
    obtain ⟨-, ⟨⟩⟩ := Option.ite_none_right_eq_some.mp asks
    exact ⟨_, rfl⟩

/-! ## Open gates and closed ones -/

namespace DeviceConn

variable {env : Env} {deviceEnv : DeviceEnv} {operation : Operation} {callbacks : UserCallbacks}
  {request : DeviceRequest} {x x' : DeviceConn}

theorem agrees_of_run {calls : List Call} {fconn : FrameConn} {host : Host}
    (ran : (start fconn host).run env deviceEnv calls = some x) : x.Agrees = true :=
  Trace.foldlM_invariant (fun y : DeviceConn => y.Agrees = true)
    (fun _ _ _ called _ => (Option.filter_eq_some_iff.mp called).2) ran rfl

/-- A call of the user, as what the packet connection does with the calls that it makes. -/
theorem call_user (env : Env) {c : DeviceCall} {device : Device} {events : List DeviceEvent} {conn : State}
    (agrees : x.Agrees = true)
    (called : x.device.call deviceEnv (Device.userCode deviceEnv deviceEnv.depth) c = some device)
    (log : device.log = x.device.log ++ events)
    (made : (connCalls events).foldlM (userCall env) x.conn = some conn)
    (deviceList : device.subscriptions = x.device.subscriptions)
    (connList : conn.conn.subscriptions = x.conn.conn.subscriptions) :
    x.call env deviceEnv (.user c) = some { device, conn } := by
  have passes : x.passOn env device = some { device, conn } := by
    rw [passOn, log, List.drop_left, made]
    rfl
  have agrees' : Agrees { device, conn } = true := by
    unfold Agrees at *
    rwa [deviceList, connList]
  rw [call, perform, called]
  change Option.filter Agrees (x.passOn env device) = _
  rw [passes, Option.filter_some, if_pos agrees']

/-- An operation whose gate is closed. -/
theorem operate_closed (agrees : x.Agrees = true)
    (closed : operation.request x.device.supportedFunctions = none) :
    ∃ x', x.operate env deviceEnv operation callbacks = some (-1, x') ∧ Refused x x' := by
  have refuses : x.device.call deviceEnv (Device.userCode deviceEnv deviceEnv.depth)
      (.request operation callbacks) = some (x.device.record .refused) := by
    simp only [Device.call, closed]
  have called := call_user env agrees refuses rfl rfl rfl rfl
  refine ⟨setErrno mdrENotSupported { device := x.device.record .refused, conn := x.conn }, ?_, ?_⟩
  · rw [operate, called, Option.bind_eq_bind, Option.bind_some, closed]
    rfl
  · exact ⟨rfl, rfl, rfl⟩

/-- An operation whose gate is open returns 0. -/
theorem operate_open {result : Int} (asks : operation.request x.device.supportedFunctions = some request)
    (run : x.operate env deviceEnv operation callbacks = some (result, x')) :
    result = 0 ∧ x.call env deviceEnv (.user (.request operation callbacks)) = some x' := by
  obtain ⟨y, called, run⟩ := Option.bind_eq_some_iff.mp run
  rw [asks] at run
  cases run
  exact ⟨rfl, called⟩

/-- The record that an operation allocates. -/
def nextData (x : DeviceConn) (callbacks : UserCallbacks) : CallbackData :=
  { address := x.device.nextAddress, ticket := x.device.nextTicket, callbacks }

/-- An operation whose gate is open and whose record is allocated. -/
theorem call_asks (callbacks : UserCallbacks)
    (asks : operation.request x.device.supportedFunctions = some request)
    (allocated : deviceEnv.malloc x.device.mallocs = true) (user : UserCode) :
    ∃ device, x.device.call deviceEnv user (.request operation callbacks) = some device ∧
      device.log = x.device.log ++ [.started x.device.nextTicket operation callbacks,
        .requested (x.nextData callbacks) request] ∧
      device.subscriptions = x.device.subscriptions := by
  let d := x.device
  let starts := { d with nextTicket := d.nextTicket + 1 }.record
    (.started d.nextTicket operation callbacks)
  let device := { starts with
    mallocs := d.mallocs + 1
    nextAddress := d.nextAddress + 1
    callbackData := d.callbackData ++ [x.nextData callbacks] }.record
      (.requested (x.nextData callbacks) request)
  have block : starts.malloc deviceEnv = (true, { starts with mallocs := d.mallocs + 1 }) :=
    congrArg (Prod.mk · _) allocated
  refine ⟨device, ?_, List.append_assoc _ _ _, rfl⟩
  rw [Device.call, asks]
  change starts.makeRequest deviceEnv user request d.nextTicket callbacks = some device
  rw [Device.makeRequest, block]
  rfl

/-- What the packet connection is then asked for. -/
theorem connCalls_asks (ticket : Ticket) (operation : Operation) (callbacks : UserCallbacks)
    (data : CallbackData) (request : DeviceRequest) :
    connCalls [.started ticket operation callbacks, .requested data request] =
      [.makeRequest request.packet request.replySpecifier
        { result := some request.resultCallback.fnPtr, error := some errorCallbackPassthroughPtr,
          userData := data.address }] := rfl

theorem userCall_single (env : Env) (c : UserCall) (s : State) :
    [c].foldlM (userCall env) s = userCall env s c := by
  rw [List.foldlM_cons]
  exact bind_pure _

/-- An operation whose gate is open makes its request when there is memory. -/
theorem operate_queues (callbacks : UserCallbacks) (agrees : x.Agrees = true) (counts : operation.CountsMatch)
    (asks : operation.request x.device.supportedFunctions = some request)
    (memory : x.HasMemory env deviceEnv) :
    ∃ accepted x', x.operate env deviceEnv operation callbacks = some (0, x') ∧
      Queued env operation request (x.nextData callbacks) accepted x x' := by
  obtain ⟨layout, single⟩ := Operation.request_layouts counts asks
  obtain ⟨device, ran, log, deviceList⟩ := call_asks callbacks asks memory.record _
  let connCallbacks : Callbacks :=
    { result := some request.resultCallback.fnPtr, error := some errorCallbackPassthroughPtr,
      userData := (x.nextData callbacks).address }
  obtain ⟨⟨handle, conn⟩, made⟩ := Option.isSome_iff_exists.mp
    ((makeRequest_returns_iff env request.packet request.replySpecifier connCallbacks x.conn).mpr
      (Option.isSome_of_eq_some single))
  have connList := makeRequest_subscriptions made
  have called : x.call env deviceEnv (.user (.request operation callbacks)) = some { device, conn } := by
    refine call_user env agrees ran log ?_ deviceList connList
    rw [connCalls_asks, userCall_single, userCall, made]
    rfl
  rcases makeRequest_cases single made with ⟨-, -, accepted, queue, asked, frame⟩ | ⟨noMemory, -⟩
  · refine ⟨accepted, { device, conn }, ?_, log, queue, asked, frame⟩
    rw [operate, called, Option.bind_eq_bind, Option.bind_some, asks]
    rfl
  · exact absurd ⟨memory.frame, memory.node⟩ noMemory

end DeviceConn

/-- What follows a failed allocation is no request of the operation. -/
theorem Device.answerError_log {user : UserCode} (keeps : user.Keeps) {d d' : Device} {ticket : Ticket}
    {callbacks : UserCallbacks} (run : d.answerError user ticket callbacks = some d') :
    ∃ event more, d'.log = d.log ++ event :: more ∧ event.call = none := by
  unfold answerError at run
  split at run
  · cases run
    exact ⟨.dropped ticket, [], rfl, rfl⟩
  · rename_i fn isFn
    obtain ⟨events, log, -⟩ := keeps (d.record (.answered ticket _)) d' run
    exact ⟨_, events, log.trans (List.append_assoc _ _ _), rfl⟩

theorem RequestQueue.enqueue_ne (q : RequestQueue) (request : Request) : q ≠ q.enqueue request := by
  intro same
  have more := congrArg RequestQueue.keys same
  rw [keys_enqueue] at more
  exact absurd (List.self_eq_append_right.mp more) (List.cons_ne_nil _ _)

namespace DeviceConn

variable {env : Env} {deviceEnv : DeviceEnv} {operation : Operation} {callbacks : UserCallbacks}
  {request : DeviceRequest} {x x' : DeviceConn}

/-- A request that is queued has its memory. -/
theorem hasMemory_of_queued (counts : operation.CountsMatch)
    (asks : operation.request x.device.supportedFunctions = some request)
    (called : x.call env deviceEnv (.user (.request operation callbacks)) = some x')
    {data : CallbackData} {accepted : Request}
    (queued : Queued env operation request data accepted x x') : x.HasMemory env deviceEnv := by
  obtain ⟨layout, single⟩ := Operation.request_layouts counts asks
  obtain ⟨called, -⟩ := Option.filter_eq_some_iff.mp called
  obtain ⟨device, ran, run⟩ := Option.bind_eq_some_iff.mp called
  obtain ⟨conn, made, run⟩ := Option.bind_eq_some_iff.mp run
  cases run
  have keeps := Device.userCode_keeps deviceEnv deviceEnv.depth
  cases allocated : deviceEnv.malloc x.device.mallocs with
  | false =>
    let starts := { x.device with nextTicket := x.device.nextTicket + 1 }.record
      (.started x.device.nextTicket operation callbacks)
    have block : starts.malloc deviceEnv = (false, { starts with mallocs := x.device.mallocs + 1 }) :=
      congrArg (Prod.mk · _) allocated
    rw [Device.call, asks] at ran
    change starts.makeRequest deviceEnv _ request x.device.nextTicket callbacks = some device at ran
    rw [Device.makeRequest, block] at ran
    obtain ⟨event, more, log, noCall⟩ := Device.answerError_log keeps ran
    have same : x.device.log ++ ([.started x.device.nextTicket operation callbacks] ++ event :: more) =
        x.device.log ++ [.started x.device.nextTicket operation data.callbacks, .requested data request] :=
      (List.append_assoc _ _ _).symm.trans (log.symm.trans queued.calls)
    obtain ⟨-, behind⟩ := List.cons.inj (List.append_cancel_left same)
    rw [(List.cons.inj behind).1] at noCall
    cases noCall
  | true =>
    obtain ⟨device', ran', log, -⟩ := call_asks callbacks asks allocated
      (Device.userCode deviceEnv deviceEnv.depth)
    obtain rfl := Option.some.inj (ran.symm.trans ran')
    rw [log, List.drop_left, connCalls_asks, userCall_single] at made
    obtain ⟨⟨handle, s⟩, requested, rfl⟩ := Option.map_eq_some_iff.mp made
    rcases makeRequest_cases single requested with ⟨frame, node, -⟩ | ⟨-, unchanged⟩
    · exact ⟨allocated, frame, node⟩
    · have queue := queued.queue
      dsimp only at queue
      rw [unchanged] at queue
      exact absurd queue (RequestQueue.enqueue_ne _ _)

/-- Whatever the queue and the subscriptions, a gate matches when it does not deviate and there is
memory. -/
theorem FlagsReported.matches_iff (flags : x.FlagsReported) (agrees : x.Agrees = true)
    {condition : List SupportFunctionType → Prop} (documented : operation.condition = some condition)
    (counts : operation.CountsMatch) :
    x.GateMatches env deviceEnv operation callbacks (condition (reportedIn x.conn.log)) ↔
      ¬ operation.Deviates (reportedIn x.conn.log) ∧
        (condition (reportedIn x.conn.log) → x.HasMemory env deviceEnv) := by
  have shows := SupportedFunctions.shows_ofList (reportedIn x.conn.log)
  rw [← flags] at shows
  rw [← operation.opens_iff shows documented]
  constructor
  · intro gate
    refine ⟨⟨fun isOpen => ?_, fun holds => ?_⟩, fun holds => ?_⟩
    · by_contra fails
      obtain ⟨request, asks⟩ := Option.isSome_iff_exists.mp isOpen
      obtain ⟨x', run, -⟩ := gate.refuses fails
      exact absurd (operate_open asks run).1 (by decide)
    · obtain ⟨request, data, accepted, x', asks, -, -, -⟩ := gate.queues holds
      exact Option.isSome_of_eq_some asks
    · obtain ⟨request, data, accepted, x', asks, -, run, queued⟩ := gate.queues holds
      exact hasMemory_of_queued counts asks (operate_open asks run).2 queued
  · rintro ⟨opens, memory⟩
    refine ⟨fun holds => ?_, fun fails => ?_⟩
    · obtain ⟨request, asks⟩ := Option.isSome_iff_exists.mp (opens.mpr holds)
      obtain ⟨accepted, x', run, queued⟩ :=
        operate_queues callbacks agrees counts asks (memory holds)
      exact ⟨request, x.nextData callbacks, accepted, x', asks, rfl, run, queued⟩
    · have closed := Option.not_isSome_iff_eq_none.mp (mt opens.mp fails)
      exact operate_closed agrees closed

/-- **A gate is what the header says, unless it deviates**: the operation makes its request when
the device has reported what it must, and is refused otherwise. -/
theorem gateMatches_iff {calls : List Call} {fconn : FrameConn} {host : Host}
    (ran : (start fconn host).run env deviceEnv calls = some x)
    {condition : List SupportFunctionType → Prop} (documented : operation.condition = some condition)
    (counts : operation.CountsMatch) (callbacks : UserCallbacks) :
    x.GateMatches env deviceEnv operation callbacks (condition (reportedIn x.conn.log)) ↔
      ¬ operation.Deviates (reportedIn x.conn.log) ∧
        (condition (reportedIn x.conn.log) → x.HasMemory env deviceEnv) :=
  (flagsReported_of_run ran).matches_iff (agrees_of_run ran) documented counts

/-- `gateMatches_iff` on a device with ambient sound and no noise cancelling. -/
theorem gateMatches_iff_ambient_sound :
    ∃ x, initReporting [0x63] 124 = some x ∧
      x.GateMatches initEnv .idle (.enableAmbientSoundMode 10 false) .both
        (ReportsAmbientSoundMode (reportedIn x.conn.log)) := by
  obtain ⟨x, ran, -⟩ := initReporting_some (show (initReporting [0x63] 124).any (fun x =>
    reportedIn x.conn.log = [.ambientSoundMode]) = true by decide +kernel)
  refine ⟨x, ran, ?_⟩
  have counts : Operation.CountsMatch (.enableAmbientSoundMode 10 false) := trivial
  exact (gateMatches_iff ran rfl counts .both).mpr ⟨id, fun _ => ⟨rfl, rfl, rfl⟩⟩

/-- The same device cannot be told to switch both off. -/
theorem not_gateMatches_disable_ncasm :
    ¬ ∀ (env : Env) (deviceEnv : DeviceEnv) (calls : List Call) (fconn : FrameConn) (host : Host)
      (x : DeviceConn), (start fconn host).run env deviceEnv calls = some x →
      x.HasMemory env deviceEnv → ∀ (operation : Operation) (callbacks : UserCallbacks)
      (condition : List SupportFunctionType → Prop), operation.condition = some condition →
      operation.CountsMatch →
        x.GateMatches env deviceEnv operation callbacks (condition (reportedIn x.conn.log)) := by
  intro always
  obtain ⟨x, ran, reported⟩ := initReporting_some (show (initReporting [0x63] 124).any (fun x =>
    reportedIn x.conn.log = [.ambientSoundMode]) = true by decide +kernel)
  have counts : Operation.disableNcasm.CountsMatch := trivial
  have gate := always _ _ _ _ _ x ran ⟨rfl, rfl, rfl⟩ .disableNcasm .both _ rfl counts
  have flags := flagsReported_of_run ran
  have deviates := ((flags.matches_iff (agrees_of_run ran) rfl counts).mp gate).1
  rw [reported] at deviates
  exact deviates ⟨by decide, by decide⟩

end DeviceConn

end Libmdr
