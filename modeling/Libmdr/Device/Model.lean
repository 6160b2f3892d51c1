import Libmdr.Device.Operations
import Libmdr.PacketConn.Model

/-!
# The device

`struct mdr_device` and the functions of `src/device.c` that use it. A device sits on a packet
connection and calls it; the packet connection calls the device back, and there the device
calls the user, who may call the device again.

A callback of the packet connection is a function here that takes a device to a device. What it
asks of the packet connection in the meantime is recorded, and a run of both is one in which
these are the calls that the script of the packet connection has for the callback (`follow`).

A function gives `none` when the C code reads freed memory or a union member that is not
selected, or when user code calls back into itself more than `DeviceEnv.depth` times.
-/

namespace Libmdr
set_option autoImplicit false

/-- The address of a block that `device.c` allocated. -/
abbrev Address := Nat

/-- Tells the operations of a run apart. The source has no such number. -/
abbrev Ticket := Nat

/-! ## The state -/

/-- The callbacks of an operation and their `user_data`; NULL is `none`. -/
structure UserCallbacks where
  result : Option FnPtr
  error : Option FnPtr
  userData : Nat
  deriving DecidableEq, Repr

/-- `callback_data_t`, with the operation that it was allocated for. -/
structure CallbackData where
  address : Address
  ticket : Ticket
  callbacks : UserCallbacks
  deriving DecidableEq, Repr

/-- `struct subscription` of `device.c`. -/
structure DeviceSubscription where
  address : Address
  userResultCallback : Option FnPtr
  userData : Nat
  handle : Handle
  deriving DecidableEq, Repr

/-- Which of the two callbacks of an operation is called. -/
inductive Reply
  | result (args : CallbackArgs)
  | error
  deriving DecidableEq, Repr

/-- A call of a user's callback. -/
structure Answer where
  fn : FnPtr
  reply : Reply
  userData : Nat
  deriving DecidableEq, Repr

/-- What the record of a device holds. No function reads it. -/
inductive DeviceEvent
  /-- An operation passes its gate, and returns 0 if it returns anything. -/
  | started (ticket : Ticket) (operation : Operation) (callbacks : UserCallbacks)
  /-- An operation sets `errno` to `MDR_E_NOT_SUPPORTED` and returns -1 or NULL. -/
  | refused
  /-- `mdr_packetconn_make_request` is called with this record. -/
  | requested (data : CallbackData) (request : DeviceRequest)
  /-- `mdr_packetconn_subscribe` is called with the node at this address. -/
  | subscribed (address : Address) (subscribe : DeviceSubscribe)
  /-- `mdr_packetconn_remove_subscription` is called. -/
  | removed (handle : Handle)
  /-- The packet connection calls back with this record. -/
  | calledBack (data : CallbackData)
  /-- The user's callback of an operation is called. -/
  | answered (ticket : Ticket) (answer : Answer)
  /-- The user's callback of an operation would be called now, but it is NULL, or the packet is
  none that the function looks for. -/
  | dropped (ticket : Ticket)
  /-- The user's callback of a subscription is called. -/
  | updated (fn : FnPtr) (args : CallbackArgs) (userData : Nat)
  deriving DecidableEq, Repr

/-- `struct mdr_device`, and the memory and the record of `device.c`. -/
structure Device where
  supportedFunctions : SupportedFunctions
  /-- `none` when the list points to nodes that are freed. -/
  subscriptions : Option (List DeviceSubscription)
  callbackData : List CallbackData
  /-- Number of `malloc` calls in `device.c` so far. -/
  mallocs : Nat
  /-- Where the next block is. No address is given out twice. -/
  nextAddress : Address
  nextTicket : Ticket
  /-- Number of user callbacks run so far. -/
  userCalls : Nat
  log : List DeviceEvent
  deriving DecidableEq, Repr

/-- `mdr_device_new_from_packetconn`. -/
def Device.newFromPacketconn : Device :=
  { supportedFunctions := .empty, subscriptions := some [], callbackData := [], mallocs := 0,
    nextAddress := 0, nextTicket := 0, userCalls := 0, log := [] }

/-- A call that user code makes into the device. -/
inductive DeviceCall
  | request (operation : Operation) (callbacks : UserCallbacks)
  | subscribe (operation : SubscribeOperation) (update : Option FnPtr) (userData : Nat)
  | removeSubscription (handle : Address)
  deriving DecidableEq, Repr

/-- What the host, the packet connection and the user decide. -/
structure DeviceEnv where
  /-- Whether the `k`-th `malloc` of `device.c` gives a block. -/
  malloc : Nat → Bool
  /-- What `mdr_packetconn_subscribe` returns for the node at an address. -/
  subscribed : Address → Option Handle
  /-- What the `k`-th callback of the user does. -/
  script : Nat → List DeviceCall
  /-- How deep calls of the user inside each other are followed. -/
  depth : Nat

/-- What `device.c` calls in the packet connection. -/
def DeviceEvent.call : DeviceEvent → Option UserCall
  | .requested data request =>
    some (.makeRequest request.packet request.replySpecifier
      { result := some request.resultCallback.fnPtr, error := some errorCallbackPassthroughPtr,
        userData := data.address })
  | .subscribed address subscribe =>
    some (.subscribe subscribe.replySpecifier (some subscribe.updateCallback.fnPtr) address)
  | .removed handle => some (.removeSubscription handle)
  | _ => none

/-- The calls in a record. -/
def connCalls (events : List DeviceEvent) : List UserCall := events.filterMap DeviceEvent.call

/-! ## Functions that the operations share -/

/-- A callback of the user runs: what it does to the device. -/
abbrev UserCode := Device → Option Device

namespace Device

variable (env : DeviceEnv) (user : UserCode)

def record (d : Device) (event : DeviceEvent) : Device := { d with log := d.log ++ [event] }

/-- `malloc` in `device.c`. -/
def malloc (d : Device) : Bool × Device :=
  (env.malloc d.mallocs, { d with mallocs := d.mallocs + 1 })

/-- `free(callback_data)`. -/
def free (data : CallbackData) (d : Device) : Device :=
  { d with callbackData := d.callbackData.filter fun other => other.address ≠ data.address }

/-- `user_result_callback(…, user_data)` or `user_error_callback(user_data)`. -/
def answer (ticket : Ticket) (callbacks : UserCallbacks) (fn : FnPtr) (reply : Reply)
    (d : Device) : Option Device :=
  user (d.record (.answered ticket { fn, reply, userData := callbacks.userData }))

/-- `if (user_error_callback != NULL) user_error_callback(user_data)`. -/
def answerError (ticket : Ticket) (callbacks : UserCallbacks) (d : Device) : Option Device :=
  match callbacks.error with
  | none => some (d.record (.dropped ticket))
  | some fn => d.answer user ticket callbacks fn .error

/-- `if (user_result_callback != NULL) …`: what the callback passes on, if anything. -/
def answerResult (ticket : Ticket) (callbacks : UserCallbacks)
    (read : Option (Option CallbackArgs)) (d : Device) : Option Device :=
  match callbacks.result with
  | none => some (d.record (.dropped ticket))
  | some fn => do
    match ← read with
    | none => return d.record (.dropped ticket)
    | some args => d.answer user ticket callbacks fn (.result args)

/-- `mdr_device_make_request`. What `mdr_packetconn_make_request` returns is not looked at. -/
def makeRequest (request : DeviceRequest) (ticket : Ticket) (callbacks : UserCallbacks)
    (d : Device) : Option Device :=
  match d.malloc env with
  | (false, d) => d.answerError user ticket callbacks
  | (true, d) =>
    let data : CallbackData := { address := d.nextAddress, ticket, callbacks }
    some ({ d with
      nextAddress := d.nextAddress + 1
      callbackData := d.callbackData ++ [data] }.record (.requested data request))

/-- `mdr_device_add_subscription`: a node goes behind the last one, unless one of the two
allocations fails. -/
def addSubscription (subscribe : DeviceSubscribe) (update : Option FnPtr) (userData : Nat)
    (d : Device) : Option Device :=
  match d.malloc env with
  | (false, d) => some d
  | (true, d) =>
    let address := d.nextAddress
    let d := { d with nextAddress := address + 1 }.record (.subscribed address subscribe)
    match env.subscribed address with
    | none => some d
    | some handle => do
      let nodes ← d.subscriptions
      let node : DeviceSubscription := { address, userResultCallback := update, userData, handle }
      return { d with subscriptions := some (nodes ++ [node]) }

/-- `mdr_device_remove_subscription`. -/
def removeSubscription (address : Address) (d : Device) : Option Device := do
  let nodes ← d.subscriptions
  match nodes.find? fun node => node.address = address with
  | none => return d
  | some node =>
    let d := d.record (.removed node.handle)
    return { d with subscriptions := some (nodes.eraseP fun node => node.address = address) }

/-- A call by user code. -/
def call (c : DeviceCall) (d : Device) : Option Device :=
  match c with
  | .request operation callbacks =>
    match operation.request d.supportedFunctions with
    | none => some (d.record .refused)
    | some request =>
      ({ d with nextTicket := d.nextTicket + 1 }.record
        (.started d.nextTicket operation callbacks)).makeRequest env user request d.nextTicket
          callbacks
  | .subscribe operation update userData =>
    match operation.subscribe d.supportedFunctions with
    | none => some (d.record .refused)
    | some subscribe => d.addSubscription env subscribe update userData
  | .removeSubscription address => d.removeSubscription address

/-- A callback of the user makes the calls that the script has for it. -/
def userCode : Nat → UserCode
  | 0, _ => none
  | depth + 1, d =>
    (env.script d.userCalls).foldlM (fun d c => d.call env (userCode depth) c)
      { d with userCalls := d.userCalls + 1 }

/-! ## Callbacks of the packet connection -/

/-- `error_callback_passthrough`. -/
def errorCallbackPassthrough (data : CallbackData) (d : Device) : Option Device := do
  let d ← d.answerError user data.ticket data.callbacks
  return d.free data

/-- The result callbacks that only pass on what they read. -/
def resultCallbackPassthrough (read : Option (Option CallbackArgs)) (data : CallbackData)
    (d : Device) : Option Device := do
  let d ← d.answerResult user data.ticket data.callbacks read
  return d.free data

/-- `mdr_device_init_result_protocol_info`: the second request, with the same callbacks. -/
def initResultProtocolInfo (data : CallbackData) (d : Device) : Option Device := do
  let d ← d.makeRequest env user supportFunctionRequest data.ticket data.callbacks
  return d.free data

/-- The loop of `mdr_device_init_result_supported_function`. -/
def addSupportedFunctions (packet : Packet) (d : Device) : Option Device := do
  let ret ← packet.connectRetSupportFunction?
  let types := ret.functionTypes.take ret.numFunctionTypes.toNat
  return { d with supportedFunctions := types.foldl SupportedFunctions.add d.supportedFunctions }

/-- `mdr_device_get_eq_capabilities_result` allocates the array of presets that it passes. -/
def runGetEqCapabilitiesResult (read : Option (Option CallbackArgs)) (data : CallbackData)
    (d : Device) : Option Device :=
  match data.callbacks.result with
  | none => d.resultCallbackPassthrough user read data
  | some _ => do
    let args ← read
    match d.malloc env with
    | (false, d) => d.errorCallbackPassthrough user data
    | (true, d) => d.resultCallbackPassthrough user (some args) data

/-- `result_callback(packet, user_data)`. -/
def resultCallback (callback : ResultCallback) (packet : Option Packet) (data : CallbackData)
    (d : Device) : Option Device :=
  match callback with
  | .successCallbackPassthrough => d.resultCallbackPassthrough user (some (some .nothing)) data
  | .initResultProtocolInfo => d.initResultProtocolInfo env user data
  | .initResultSupportedFunction => do
    let packet ← packet
    let d ← d.addSupportedFunctions packet
    d.resultCallbackPassthrough user (ResultCallback.initResultSupportedFunction.read packet) data
  | .getEqCapabilitiesResult =>
    d.runGetEqCapabilitiesResult env user
      (packet.bind ResultCallback.getEqCapabilitiesResult.read) data
  | callback => d.resultCallbackPassthrough user (packet.bind callback.read) data

/-- The update callback of a subscription. -/
def updateCallback (callback : UpdateCallback) (packet : Packet) (node : DeviceSubscription)
    (d : Device) : Option Device :=
  match node.userResultCallback with
  | none => some d
  | some fn => do
    match ← callback.read packet with
    | none => return d
    | some args => user (d.record (.updated fn args node.userData))

/-- The packet connection calls a callback. -/
def callback (event : Event) (d : Device) : Option Device :=
  match event with
  | .called called => do
    let data ← d.callbackData.find? fun data => data.address = called.userData
    let d := d.record (.calledBack data)
    match called.arg with
    | .result packet => do
      d.resultCallback env user (← ResultCallback.ofFnPtr called.fn) packet data
    | .error _ =>
      if called.fn = errorCallbackPassthroughPtr then d.errorCallbackPassthrough user data else none
  | .notified subscription packet => do
    let update ← UpdateCallback.ofFnPtr (← subscription.callbacks.result)
    let nodes ← d.subscriptions
    let node ← nodes.find? fun node => node.address = subscription.callbacks.userData
    d.updateCallback user update packet node
  | _ => some d

/-- A call for a subscription runs an update callback of the device. -/
theorem callback_notified {env : DeviceEnv} {user : UserCode} {subscription : Subscription}
    {packet : Packet} {d d' : Device}
    (run : d.callback env user (.notified subscription packet) = some d') :
    ∃ update node, d.updateCallback user update packet node = some d' := by
  obtain ⟨fn, -, run⟩ := Option.bind_eq_some_iff.mp run
  obtain ⟨update, -, run⟩ := Option.bind_eq_some_iff.mp run
  obtain ⟨nodes, -, run⟩ := Option.bind_eq_some_iff.mp run
  obtain ⟨node, -, run⟩ := Option.bind_eq_some_iff.mp run
  exact ⟨update, node, run⟩

end Device

end Libmdr
