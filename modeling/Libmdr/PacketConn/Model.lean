import Libmdr.PacketConn.State

/-!
# The packet connection

The operations of `src/packetconn.c`. `mdr_packetconn_process_by_availability` is
split into the parts its comments name: flush, send or give up, receive.

A function gives `none` when the C code has not returned with the outcomes listed
in the host, reads freed memory, or runs a loop for more rounds than `Env.limit`.
-/

namespace Libmdr
set_option autoImplicit false

/-! ## The request queue -/

/-- A request becomes the first one: its frame gets the sequence id, and the checksum. -/
def Request.assign (request : Request) (sequenceId : UInt8) : Request :=
  { request with frame := { request.frame with sequenceId }.setChecksum }

namespace RequestQueue

/-- The end of `mdr_packetconn_make_request`: a new request becomes the first or the last. -/
def enqueue (q : RequestQueue) (request : Request) : RequestQueue :=
  if q.requests = [] then
    { nextSequenceId := lnot q.nextSequenceId, requests := [request.assign q.nextSequenceId] }
  else { q with requests := q.requests ++ [request] }

/-- `advance_frame_queue`. -/
def advance (q : RequestQueue) : RequestQueue :=
  match q.requests with
  | [] => q
  | [_] => { q with requests := [] }
  | _ :: next :: rest =>
    { nextSequenceId := lnot q.nextSequenceId, requests := next.assign q.nextSequenceId :: rest }

/-- `conn->next_sequence_id = !conn->next_sequence_id`. -/
def flip (q : RequestQueue) : RequestQueue := { q with nextSequenceId := lnot q.nextSequenceId }

/-- A change of the first request's fields. -/
def mapHead (f : Request → Request) (q : RequestQueue) : RequestQueue :=
  match q.requests with
  | [] => q
  | head :: rest => { q with requests := f head :: rest }

end RequestQueue

namespace RequestList

/-- The end of `mdr_packetconn_make_request`, the pointers: `request->next` is NULL, and
the new request is put behind the tail when there is a first one. -/
def enqueue (list : RequestList) (handle : Handle) : Option RequestList :=
  let next := list.next.insert handle none
  match list.request with
  | none => some { request := some handle, requestQueueTail := some handle, next }
  | some _ => do
    let tail ← list.requestQueueTail
    if tail ∈ next then
      return { list with requestQueueTail := some handle, next := next.insert tail (some handle) }
    else none

/-- `advance_frame_queue`, the pointers: the first request is freed. -/
def advance (list : RequestList) : Option RequestList :=
  match list.request with
  | none => some list
  | some request => do
    let next ← list.next.lookup request
    return { request := next
             requestQueueTail := if next = none then none else list.requestQueueTail
             next := list.next.erase request }

/-- `next = request->next; free(request)` in `mdr_packetconn_free_self`, which leaves the
two pointers of the connection as they are. -/
def free (handle : Handle) (list : RequestList) : Option RequestList := do
  let _ ← list.next.lookup handle
  return { list with next := list.next.erase handle }

end RequestList

/-- A frame was handed over: `attempts++`, and the time to wait for the ACK. -/
def Request.sent (now : Timespec) (request : Request) : Request :=
  { request with attempts := request.attempts + 1, timeout := timespecAdd now packetAckTimeout }

/-- An ACK was accepted for a request that waits for a reply. -/
def Request.ackedAt (now : Timespec) (request : Request) : Request :=
  { request with acked := true, timeout := timespecAdd now packetReplyTimeout }

/-- `advance_frame_queue`. -/
def State.advanceFrameQueue (s : State) : State :=
  (s.setQueue s.conn.queue.advance).relink RequestList.advance

section AdvanceFrameQueue

variable (s : State)

@[simp] theorem State.advanceFrameQueue_queue :
    s.advanceFrameQueue.conn.queue = s.conn.queue.advance := rfl
@[simp] theorem State.advanceFrameQueue_subscriptions :
    s.advanceFrameQueue.conn.subscriptions = s.conn.subscriptions := rfl
@[simp] theorem State.advanceFrameQueue_fconn :
    s.advanceFrameQueue.conn.fconn = s.conn.fconn := rfl
@[simp] theorem State.advanceFrameQueue_host : s.advanceFrameQueue.host = s.host := rfl
@[simp] theorem State.advanceFrameQueue_log : s.advanceFrameQueue.log = s.log := rfl
@[simp] theorem State.advanceFrameQueue_nextHandle :
    s.advanceFrameQueue.nextHandle = s.nextHandle := rfl

end AdvanceFrameQueue

/-- The condition under which an ACK frame is taken as that of the request. -/
def ackMatches (frame : Frame) (request : Request) : Bool :=
  !request.acked && decide ((frame.sequenceId.toNat : Int) = 1 - request.frame.sequenceId.toNat)

/-! ## Calls by user code -/

/-- `mdr_packetconn_make_request`: the handle, `none` for NULL. -/
def makeRequest (env : Env) (packet : Packet) (spec : ReplySpecifier) (callbacks : Callbacks)
    (s : State) : Option (Option Handle × State) := do
  match ← packet.toFrame env.heap s.host with
  | (none, host) => return (none, { s with host })
  | (some frame, host) =>
    match host.malloc env.heap with
    | (none, host) => return (none, { s with host })
    | (some _, host) =>
      let request : Request :=
        { handle := s.nextHandle, frame, timeout := env.stale host.mallocs, attempts := 0,
          acked := false, callbacks, expectedReply := spec }
      let s := { s with host, nextHandle := s.nextHandle + 1 }
      let s := (s.record [.accepted request]).setQueue (s.conn.queue.enqueue request)
      return (some request.handle, s.relink (·.enqueue request.handle))

/-- `mdr_packetconn_subscribe`. -/
def subscribe (env : Env) (spec : ReplySpecifier) (result : Option FnPtr) (userData : Nat)
    (s : State) : Option Handle × State :=
  match s.host.malloc env.heap with
  | (none, host) => (none, { s with host })
  | (some _, host) =>
    let subscription : Subscription :=
      { handle := s.nextHandle, callbacks := { result, error := none, userData }, specifier := spec }
    (some subscription.handle,
      { s with
        host
        nextHandle := s.nextHandle + 1
        conn := { s.conn with subscriptions := s.conn.subscriptions ++ [subscription] } })

/-- `mdr_packetconn_remove_subscription`. -/
def removeSubscription (handle : Handle) (s : State) : State :=
  { s with
    conn := { s.conn with
      subscriptions := s.conn.subscriptions.eraseP fun node => node.handle = handle } }

/-- One call by user code. -/
def userCall (env : Env) (s : State) : UserCall → Option State
  | .makeRequest packet spec callbacks => (makeRequest env packet spec callbacks s).map Prod.snd
  | .subscribe spec result userData => some (subscribe env spec result userData s).2
  | .removeSubscription handle => some (removeSubscription handle s)

/-- A callback runs: it makes the calls that the script has for it. -/
def runCallback (env : Env) (event : Event) (s : State) : Option State :=
  (env.script s.calls).foldlM (userCall env) { s.record [event] with calls := s.calls + 1 }

/-- `result_callback(packet, user_data)`, when it is not NULL. -/
def callResult (env : Env) (request : Request) (packet : Option Packet) (s : State) :
    Option State :=
  match request.callbacks.result with
  | none => some s
  | some fn =>
    runCallback env (.called { handle := request.handle, fn, arg := .result packet,
                               userData := request.callbacks.userData }) s

/-- `errno = e; error_callback(user_data)`, when it is not NULL. -/
def callError (env : Env) (request : Request) (e : Errno) (s : State) : Option State :=
  match request.callbacks.error with
  | none => some s
  | some fn =>
    runCallback env (.called { handle := request.handle, fn, arg := .error e,
                               userData := request.callbacks.userData })
      { s with host := { s.host with errno := e } }

/-! ## Flushing and sending -/

/-- Whether a failed call may be repeated later. -/
def wouldBlock (h : Host) : Bool := h.errno = eagain || h.errno = ewouldblock

/-- The flush of `mdr_packetconn_process_by_availability`. The result is -1 when
the function returns. -/
def flushPart (writable : Bool) (s : State) : Option (Int × State) :=
  if writable then do
    let (result, fconn, host) ← s.conn.fconn.flushWrite s.host
    let s := { s with conn := { s.conn with fconn }, host }
    if result < 0 ∧ ¬ wouldBlock host then return (-1, s)
    return (0, s)
  else some (0, s)

/-- The frame of the first request is written; when that succeeds it counts as an
attempt. The source has this twice, for the first attempt and for the others. -/
def transmit (env : Env) (now : Timespec) (head : Request) (s : State) : Option (Int × State) := do
  let (result, fconn, host) ← s.conn.fconn.writeFrame env.heap s.host head.frame
  let s := { s with conn := { s.conn with fconn }, host }.record [.wrote head result now]
  if result < 0 then
    if ¬ wouldBlock host then return (-1, s)
    return (0, s)
  return (0, s.setQueue (s.conn.queue.mapHead (Request.sent now)))

/-- The first request is given up: the error callback, then `advance_frame_queue`.
Without an ACK the next request takes the same sequence id. -/
def giveUp (env : Env) (now : Timespec) (head : Request) (s : State) : Option State := do
  let outcome : Outcome := if head.acked then .noReply else .noAck
  let s := s.record [.expired now, .finished head outcome]
  let s := if head.acked then s else s.setQueue s.conn.queue.flip
  let s ← callError env head (if head.acked then mdrENoReply else mdrENoAck) s
  return s.advanceFrameQueue

/-- The first request is sent, sent again, or given up. -/
def sendPart (env : Env) (now : Timespec) (writable : Bool) (s : State) : Option (Int × State) :=
  match s.conn.queue.requests with
  | [] => some (0, s)
  | head :: _ =>
    if head.attempts = 0 then
      if writable then transmit env now head s else some (0, s)
    else if 0 < timespecCompare now head.timeout then
      if head.acked ∨ packetMaxTries ≤ head.attempts then do
        return (0, ← giveUp env now head s)
      else transmit env now head s
    else some (0, s)

/-! ## Receiving -/

/-- A frame with `data_type` ACK. -/
def receiveAck (env : Env) (now : Timespec) (frame : Frame) (s : State) : Option State :=
  match s.conn.queue.requests with
  | [] => some s
  | head :: _ =>
    if ackMatches frame head then
      if head.expectedReply.onlyAck then
        callResult env head none (s.record [.finished head (.ack frame)]).advanceFrameQueue
      else
        some ((s.record [.acked head]).setQueue (s.conn.queue.mapHead (Request.ackedAt now)))
    else some s

/-- `ack_frame`. -/
def ackFrame (frame : Frame) : Frame :=
  { dataType := frameDataTypeAck, sequenceId := lnot frame.sequenceId, payloadLength := 0,
    body := [0] : Frame }.setChecksum

/-- `subscription->next` of the node at an address; `none` when it was freed. -/
def nextSubscription (handle : Handle) : List Subscription → Option (Option Handle)
  | [] => none
  | node :: rest =>
    if node.handle = handle then some (rest.head?.map Subscription.handle)
    else nextSubscription handle rest

/-- The body of the loop over the subscriptions. -/
def notify (env : Env) (packet : Packet) (node : Subscription) (s : State) : Option State :=
  if replySpecifierMatches node.specifier packet then
    if node.callbacks.result.isSome then runCallback env (.notified node packet) s else some s
  else some s

/-- The loop over the subscriptions, at the node at an address. -/
def dispatch (env : Env) (packet : Packet) : Nat → Option Handle → State → Option State
  | _, none, s => some s
  | 0, some _, _ => none
  | rounds + 1, some handle, s => do
    let node ← s.conn.subscriptions.find? fun node => node.handle = handle
    let s ← notify env packet node s
    dispatch env packet rounds (← nextSubscription handle s.conn.subscriptions) s

/-- A packet that was read: the result of the first request, or for the subscriptions. -/
def receivePacket (env : Env) (packet : Packet) (s : State) : Option State :=
  let s := s.record [.parsed packet s.conn.queue.requests.head?]
  let toSubscriptions :=
    dispatch env packet env.limit (s.conn.subscriptions.head?.map Subscription.handle) s
  match s.conn.queue.requests with
  | [] => toSubscriptions
  | head :: _ =>
    if replySpecifierMatches head.expectedReply packet then
      callResult env head (some packet)
        (s.record [.finished head (.reply packet)]).advanceFrameQueue
    else toSubscriptions

/-- A frame with `data_type` DATA_MDR: it is acknowledged, whether or not the
write succeeds, and then read as a packet. -/
def receiveData (env : Env) (frame : Frame) (s : State) : Option (Int × State) := do
  let (result, fconn, host) ← s.conn.fconn.writeFrame env.heap s.host (ackFrame frame)
  let s := { s with conn := { s.conn with fconn }, host }.record [.wroteAck (ackFrame frame) result]
  match ← Packet.fromFrame env.heap frame s.host with
  | (none, host) => return (-1, { s with host })
  | (some packet, host) => return (0, ← receivePacket env packet { s with host })

/-- A frame that was read. -/
def receiveFrame (env : Env) (now : Timespec) (frame : Frame) (s : State) : Option (Int × State) :=
  let s := s.record [.received frame s.conn.queue.requests.head? now]
  if frame.dataType = frameDataTypeAck then do
    return (0, ← receiveAck env now frame s)
  else if frame.dataType = frameDataTypeDataMdr then receiveData env frame s
  else some (0, s)

/-- One frame is read. The test of a failed read is written `errno = EAGAIN || …`:
it sets `errno` to 1 and never makes the function fail. -/
def receivePart (env : Env) (now : Timespec) (s : State) : Option (Int × State) :=
  match s.conn.fconn.readFrame s.host with
  | none => none
  | some (none, fconn, host) =>
    some (0, { s with conn := { s.conn with fconn }, host := { host with errno := 1 } })
  | some (some frame, fconn, host) =>
    receiveFrame env now frame { s with conn := { s.conn with fconn }, host }

/-- `mdr_packetconn_process_by_availability`; `now` is what the clock shows. -/
def process (env : Env) (now : Timespec) (readable writable : Bool) (s : State) :
    Option (Int × State) := do
  let (result, s) ← flushPart writable s
  if result < 0 then return (-1, s)
  let (result, s) ← sendPart env now writable s
  if result < 0 then return (-1, s)
  if readable then receivePart env now s else return (0, s)

/-! ## Polling and closing -/

/-- `mdr_poll_info`, less the socket's number. -/
structure PollInfo where
  write : Bool
  timeout : Int
  deriving DecidableEq, Repr

/-- `mdr_packetconn_poll_info`. -/
def pollInfo (now : Timespec) (s : State) : PollInfo :=
  match s.conn.queue.requests with
  | [] => { write := s.conn.fconn.waitingWrite, timeout := -1 }
  | head :: _ =>
    { write := s.conn.fconn.waitingWrite || head.attempts = 0 ||
        0 < timespecCompare now head.timeout
      timeout :=
        if head.attempts = 0 then -1
        else
          let timeout := timespecSub head.timeout now
          if timeout.sec < 0 then 0
          else timeout.sec * 1000 + timeout.nsec.tdiv 1000000 }

/-- The loop of `mdr_packetconn_free_self` over the requests. The callbacks may
still add requests at the end of the list. -/
def freeRequests (env : Env) : Nat → State → Option State
  | rounds, s =>
    match s.conn.queue.requests with
    | [] => some s
    | head :: _ =>
      match rounds with
      | 0 => none
      | rounds + 1 => do
        let s ← callError env head mdrEClosed (s.record [.closing, .finished head .closed])
        let queue := { s.conn.queue with requests := s.conn.queue.requests.tail }
        freeRequests env rounds ((s.setQueue queue).relink (·.free head.handle))

/-- `mdr_packetconn_close` and `mdr_packetconn_free`. -/
def close (env : Env) (s : State) : Option State := do
  let s ← freeRequests env env.limit s
  return { s with conn := { s.conn with subscriptions := [] } }

/-! ## Runs -/

/-- A call of the public interface. -/
inductive Call
  | user (call : UserCall)
  | process (now : Timespec) (readable writable : Bool)
  deriving DecidableEq, Repr

/-- One call from outside. -/
def call (env : Env) (s : State) : Call → Option State
  | .user c => userCall env s c
  | .process now readable writable => (process env now readable writable s).map Prod.snd

/-- A run: calls of the public interface one after the other. -/
def run (env : Env) (calls : List Call) (s : State) : Option State :=
  calls.foldlM (call env) s

/-! ## A small user -/

/-- A heap that never runs out, and callbacks that do nothing. -/
def Env.idle : Env :=
  { heap := fun _ => some [], stale := fun _ => { sec := 0, nsec := 0 }, script := fun _ => [],
    limit := 4 }

/-- Each callback makes the same calls. -/
def Env.calling (calls : List UserCall) : Env := { Env.idle with script := fun _ => calls }

/-- A host before the first call, with what its socket will do. -/
def Host.listing (reads : List ReadOutcome) (writes : List WriteOutcome) : Host :=
  { errno := 0, reads, writes, mallocs := 0, wire := [], got := [] }

/-- The request of `mdr_device_power_off`: only its ACK counts. -/
def powerOff : UserCall :=
  .makeRequest (.commonSetPowerOff { inquiredType := .fixedValue, settingValue := .userPowerOff })
    { onlyAck := true, packetType := .connectGetProtocolInfo, extra := 0 }
    { result := some 0, error := some 1, userData := 0 }

/-- The request for the protocol's version, and the reply it waits for. -/
def getProtocolInfo : UserCall :=
  .makeRequest (.connectGetProtocolInfo { fixedValue := 0 })
    { onlyAck := false, packetType := .connectRetProtocolInfo, extra := 0 }
    { result := some 0, error := some 1, userData := 0 }

end Libmdr
