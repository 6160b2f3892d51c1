import Libmdr.FrameConn.Model
import Libmdr.Lib.LinkedList
import Libmdr.Packet.Packet

/-!
# The state of a packet connection

`struct mdr_packetconn` and the types around it (`src/packetconn.c`,
`include/mdr/packetconn.h`), the user code that callbacks run, and the record of
what a connection has done.

The two linked lists are Lean lists from the head to the tail, their nodes told
apart by a handle that stands for the node's address. The pointers of the list of
requests are kept beside it, as the C code sets them. A callback is a function
pointer; what the function does when it is called is not the library's choice
and comes from a script in `Env`, one list of calls into the library for each
callback that is run.
-/

namespace Libmdr
set_option autoImplicit false

/-! ## Time -/

/-- `struct timespec`. -/
structure Timespec where
  sec : Int
  nsec : Int
  deriving DecidableEq, Repr

/-- `timespec_add`. A sum of exactly a second's nanoseconds is not carried. -/
def timespecAdd (a b : Timespec) : Timespec :=
  let result : Timespec := { sec := a.sec + b.sec, nsec := a.nsec + b.nsec }
  if 1000000000 < result.nsec then
    { sec := result.sec + 1, nsec := result.nsec - 1000000000 }
  else result

/-- `timespec_sub`. -/
def timespecSub (a b : Timespec) : Timespec :=
  let result : Timespec := { sec := a.sec - b.sec, nsec := a.nsec - b.nsec }
  if result.nsec < 0 then { sec := result.sec - 1, nsec := result.nsec + 1000000000 }
  else result

/-- `timespec_compare`. -/
def timespecCompare (a b : Timespec) : Int :=
  if a.sec < b.sec then -1
  else if b.sec < a.sec then 1
  else if a.nsec < b.nsec then -1
  else if b.nsec < a.nsec then 1
  else 0

/-- `packet_ack_timeout`. -/
def packetAckTimeout : Timespec := { sec := 1, nsec := 0 }

/-- `packet_reply_timeout`. -/
def packetReplyTimeout : Timespec := { sec := 1, nsec := 0 }

/-- `PACKET_MAX_TRIES`. -/
def packetMaxTries : Nat := 3

/-! ## Requests and subscriptions -/

/-- The address of a node of one of the two lists. -/
abbrev Handle := Nat

/-- A function pointer that is not NULL. -/
abbrev FnPtr := Nat

/-- `mdr_packetconn_reply_specifier_t`. -/
structure ReplySpecifier where
  onlyAck : Bool
  packetType : PacketType
  extra : UInt8
  deriving DecidableEq, Repr

/-- `callbacks_t`; NULL is `none`. -/
structure Callbacks where
  result : Option FnPtr
  error : Option FnPtr
  userData : Nat
  deriving DecidableEq, Repr

/-- `struct request`. -/
structure Request where
  handle : Handle
  frame : Frame
  timeout : Timespec
  attempts : Nat
  acked : Bool
  callbacks : Callbacks
  expectedReply : ReplySpecifier
  deriving DecidableEq, Repr

/-- `struct subscription`. -/
structure Subscription where
  handle : Handle
  callbacks : Callbacks
  specifier : ReplySpecifier
  deriving DecidableEq, Repr

/-- The field `next_sequence_id`, and the requests from the first one to the last. -/
structure RequestQueue where
  nextSequenceId : UInt8
  requests : List Request
  deriving DecidableEq, Repr

/-- The pointers `request` and `request_queue_tail`, and the field `next` of the
requests that are allocated. -/
structure RequestList where
  request : Option Handle
  requestQueueTail : Option Handle
  next : LinkedList.Memory Handle
  deriving DecidableEq, Repr

/-- `struct mdr_packetconn`. There is no `requestList` after an access through NULL or
to a request that is freed. -/
structure PacketConn where
  fconn : FrameConn
  queue : RequestQueue
  requestList : Option RequestList
  subscriptions : List Subscription
  deriving DecidableEq, Repr

/-- `mdr_packetconn_new_from_frameconn`. -/
def PacketConn.newFromFrameconn (fconn : FrameConn) : PacketConn :=
  { fconn
    queue := { nextSequenceId := 0, requests := [] }
    requestList := some { request := none, requestQueueTail := none, next := ∅ }
    subscriptions := [] }

/-- C's `!` on a byte. -/
def lnot (x : UInt8) : UInt8 := if x = 0 then 1 else 0

/-- `reply_specifier_matches`. -/
def replySpecifierMatches (spec : ReplySpecifier) (packet : Packet) : Bool :=
  if packet.type ≠ spec.packetType then false
  else
    match packet with
    | .connectGetProtocolInfo _ | .connectRetProtocolInfo _ => true
    | .connectGetDeviceInfo _ => true
    | .connectRetDeviceInfo data => spec.extra == ByteEnum.byte data.inquiredType
    | .connectGetSupportFunction _ | .connectRetSupportFunction _ => true
    | .commonGetBatteryLevel _ => true
    | .commonRetBatteryLevel data => spec.extra == ByteEnum.byte data.inquiredType
    | .commonNtfyBatteryLevel data => spec.extra == ByteEnum.byte data.inquiredType
    | .commonSetPowerOff _ => true
    | .commonGetConnectionStatus _ => true
    | .commonRetConnectionStatus data => spec.extra == ByteEnum.byte data.inquiredType
    | .commonNtfyConnectionStatus data => spec.extra == ByteEnum.byte data.inquiredType
    | .eqebbGetCapability _ => true
    | .eqebbRetCapability data => spec.extra == ByteEnum.byte data.inquiredType
    | .eqebbGetParam _ => true
    | .eqebbRetParam data => spec.extra == ByteEnum.byte data.inquiredType
    | .eqebbSetParam data => spec.extra == ByteEnum.byte data.inquiredType
    | .eqebbNtfyParam data => spec.extra == ByteEnum.byte data.inquiredType
    | .ncasmGetParam _ => true
    | .ncasmRetParam data => spec.extra == ByteEnum.byte data.inquiredType
    | .ncasmSetParam data => spec.extra == ByteEnum.byte data.inquiredType
    | .ncasmNtfyParam data => spec.extra == ByteEnum.byte data.inquiredType
    | .playGetParam _ => true
    | .playRetParam data => spec.extra == ByteEnum.byte data.detailedDataType
    | .playSetParam data => spec.extra == ByteEnum.byte data.detailedDataType
    | .playNtfyParam data => spec.extra == ByteEnum.byte data.detailedDataType
    | .systemGetCapability _ => true
    | .systemRetCapability data => spec.extra == ByteEnum.byte data.inquiredType
    | .systemGetParam _ => true
    | .systemRetParam data => spec.extra == ByteEnum.byte data.inquiredType
    | .systemSetParam data => spec.extra == ByteEnum.byte data.inquiredType
    | .systemNtfyParam data => spec.extra == ByteEnum.byte data.inquiredType

/-! ## What has happened -/

/-- How a request ends. -/
inductive Outcome
  | ack (frame : Frame)
  | reply (packet : Packet)
  | noAck
  | noReply
  | closed
  deriving DecidableEq, Repr

/-- The argument of a callback: the packet of a result callback, or the errno
that an error callback finds. -/
inductive CallArg
  | result (packet : Option Packet)
  | error (errno : Errno)
  deriving DecidableEq, Repr

/-- One call of a request's result or error callback. -/
structure Called where
  handle : Handle
  fn : FnPtr
  arg : CallArg
  userData : Nat
  deriving DecidableEq, Repr

/-- What the record of a connection holds. No function reads it. -/
inductive Event
  /-- `mdr_packetconn_make_request` returned a handle. -/
  | accepted (request : Request)
  /-- `mdr_frameconn_write_frame` was called on the frame of the first request. -/
  | wrote (request : Request) (result : Int) (now : Timespec)
  /-- The timer of the first request ran out and it is not sent again. -/
  | expired (now : Timespec)
  /-- A frame was read, with the first request at that time. -/
  | received (frame : Frame) (head : Option Request) (now : Timespec)
  /-- The first request was marked as acknowledged. -/
  | acked (request : Request)
  /-- A data frame was read as a packet, with the first request at that time. -/
  | parsed (packet : Packet) (head : Option Request)
  /-- The connection is being closed and its first request freed. -/
  | closing
  /-- A request ends. -/
  | finished (request : Request) (outcome : Outcome)
  /-- A callback of a request is called. -/
  | called (call : Called)
  /-- `mdr_frameconn_write_frame` was called on the ACK of a data frame. -/
  | wroteAck (frame : Frame) (result : Int)
  /-- The callback of a subscription is called. -/
  | notified (subscription : Subscription) (packet : Packet)
  deriving DecidableEq, Repr

/-! ## User code and the state -/

/-- A call that user code makes into the library. -/
inductive UserCall
  | makeRequest (packet : Packet) (spec : ReplySpecifier) (callbacks : Callbacks)
  | subscribe (spec : ReplySpecifier) (result : Option FnPtr) (userData : Nat)
  | removeSubscription (handle : Handle)
  deriving DecidableEq, Repr

/-- What the host and the user decide. -/
structure Env where
  heap : Heap
  /-- What the `timeout` field of a new request holds: `malloc` does not clear it. -/
  stale : Nat → Timespec
  /-- What the `k`-th callback does. -/
  script : Nat → List UserCall
  /-- How many rounds of a loop that user code can prolong are followed. -/
  limit : Nat

/-- A connection, the host, and the record. -/
structure State where
  conn : PacketConn
  host : Host
  log : List Event
  /-- Number of callbacks run so far. -/
  calls : Nat
  /-- The handle of the next node. -/
  nextHandle : Handle
  deriving DecidableEq, Repr

/-- A new connection over a frame connection. -/
def State.start (fconn : FrameConn) (host : Host) : State :=
  { conn := PacketConn.newFromFrameconn fconn, host, log := [], calls := 0, nextHandle := 0 }

/-- The record with more events. -/
def State.record (s : State) (events : List Event) : State := { s with log := s.log ++ events }

def State.setQueue (s : State) (queue : RequestQueue) : State :=
  { s with conn := { s.conn with queue } }

/-- A change of the pointers, which may be an access that is not allowed. -/
def State.relink (s : State) (change : RequestList → Option RequestList) : State :=
  { s with conn := { s.conn with requestList := s.conn.requestList.bind change } }

/-- An entry of the record changes nothing else. No function reads the record. -/
@[simp] theorem State.record_conn (s : State) (events : List Event) :
    (s.record events).conn = s.conn := rfl
@[simp] theorem State.record_host (s : State) (events : List Event) :
    (s.record events).host = s.host := rfl

/-- Entries come behind those that there are. -/
@[simp] theorem State.record_log (s : State) (events : List Event) :
    (s.record events).log = s.log ++ events := rfl
@[simp] theorem State.record_calls (s : State) (events : List Event) :
    (s.record events).calls = s.calls := rfl
@[simp] theorem State.record_nextHandle (s : State) (events : List Event) :
    (s.record events).nextHandle = s.nextHandle := rfl

/-- A change of the queue leaves the other fields of the connection, the host and the record. -/
@[simp] theorem State.setQueue_queue (s : State) (queue : RequestQueue) :
    (s.setQueue queue).conn.queue = queue := rfl
@[simp] theorem State.setQueue_subscriptions (s : State) (queue : RequestQueue) :
    (s.setQueue queue).conn.subscriptions = s.conn.subscriptions := rfl

/-- Requests wait in the packet connection: the frame connection and the host are not concerned. -/
@[simp] theorem State.setQueue_fconn (s : State) (queue : RequestQueue) :
    (s.setQueue queue).conn.fconn = s.conn.fconn := rfl
@[simp] theorem State.setQueue_host (s : State) (queue : RequestQueue) :
    (s.setQueue queue).host = s.host := rfl
@[simp] theorem State.setQueue_log (s : State) (queue : RequestQueue) :
    (s.setQueue queue).log = s.log := rfl
@[simp] theorem State.setQueue_nextHandle (s : State) (queue : RequestQueue) :
    (s.setQueue queue).nextHandle = s.nextHandle := rfl

/-- The chain of requests stays: `setQueue` is for the fields of the requests in it. -/
@[simp] theorem State.setQueue_requestList (s : State) (queue : RequestQueue) :
    (s.setQueue queue).conn.requestList = s.conn.requestList := rfl

section Relink

variable (s : State) (change : RequestList → Option RequestList)

/-- A change of the chain, which gives `none` where the code follows a pointer to freed memory. -/
@[simp] theorem State.relink_requestList :
    (s.relink change).conn.requestList = s.conn.requestList.bind change := rfl

/-- The fields of the requests, and all but the chain, stay. -/
@[simp] theorem State.relink_queue : (s.relink change).conn.queue = s.conn.queue := rfl
@[simp] theorem State.relink_subscriptions :
    (s.relink change).conn.subscriptions = s.conn.subscriptions := rfl
@[simp] theorem State.relink_fconn : (s.relink change).conn.fconn = s.conn.fconn := rfl
@[simp] theorem State.relink_host : (s.relink change).host = s.host := rfl
@[simp] theorem State.relink_log : (s.relink change).log = s.log := rfl
@[simp] theorem State.relink_nextHandle : (s.relink change).nextHandle = s.nextHandle := rfl

end Relink

end Libmdr
