import Libmdr.Device.Model
import Libmdr.PacketConn.Scripted

/-!
# Runs of a device

A device and the packet connection below it. The device runs when the user calls it, and the
connection then makes the calls that the device asked for; and it runs in the callbacks of the
connection, one after the other, and each must have asked for what the script of the connection
has for it.
-/

namespace Libmdr
set_option autoImplicit false

/-- The callbacks in a record of the packet connection. `k` callbacks have run before. -/
def Device.follow (env : Env) (deviceEnv : DeviceEnv) : List Event → Nat → Device → Option Device
  | [], _, d => some d
  | event :: rest, k, d =>
    if event.IsCallback then do
      let d' ← d.callback deviceEnv (userCode deviceEnv deviceEnv.depth) event
      if connCalls (d'.log.drop d.log.length) = env.script k then
        follow env deviceEnv rest (k + 1) d'
      else none
    else follow env deviceEnv rest k d

/-- The loop of `mdr_device_free` and `mdr_device_close` over the subscriptions, which are freed. -/
def Device.removeSubscriptions (d : Device) : Option Device := do
  let nodes ← d.subscriptions
  return nodes.foldl (fun d node => d.record (.removed node.handle))
    { d with subscriptions := if nodes = [] then some [] else none }

/-- A device and its packet connection. -/
structure DeviceConn where
  device : Device
  conn : State

namespace DeviceConn

variable (env : Env) (deviceEnv : DeviceEnv)

/-- `mdr_device_new_from_packetconn` on a new connection. -/
def start (fconn : FrameConn) (host : Host) : DeviceConn :=
  { device := .newFromPacketconn, conn := State.start fconn host }

/-- The two lists of subscriptions have the same nodes: `DeviceEnv.subscribed` is what
`mdr_packetconn_subscribe` returned. -/
def Agrees (x : DeviceConn) : Bool :=
  x.device.subscriptions.map (·.map fun node => (node.address, node.handle)) =
    some (x.conn.conn.subscriptions.map fun node => (node.callbacks.userData, node.handle))

/-- The device got ahead, and the packet connection makes the calls that it asked for. -/
def passOn (device : Device) (x : DeviceConn) : Option DeviceConn := do
  let conn ← (connCalls (device.log.drop x.device.log.length)).foldlM (userCall env) x.conn
  return { device, conn }

/-- The packet connection got ahead, and the device runs in its callbacks. -/
def callBack (conn : State) (x : DeviceConn) : Option DeviceConn := do
  let device ← x.device.follow env deviceEnv (conn.log.drop x.conn.log.length) x.conn.calls
  return { device, conn }

/-- A call of the public interface. -/
inductive Call
  | user (call : DeviceCall)
  | process (now : Timespec) (readable writable : Bool)
  deriving DecidableEq, Repr

/-- One call from outside: of an operation, or of `mdr_device_process_by_availability`. -/
def perform (x : DeviceConn) : Call → Option DeviceConn
  | .user call => do
    x.passOn env (← x.device.call deviceEnv (Device.userCode deviceEnv deviceEnv.depth) call)
  | .process now readable writable => do
    x.callBack env deviceEnv (← process env now readable writable x.conn).2

def call (x : DeviceConn) (c : Call) : Option DeviceConn :=
  (x.perform env deviceEnv c).filter Agrees

/-- A run: calls of the public interface one after the other. -/
def run (calls : List Call) (x : DeviceConn) : Option DeviceConn :=
  calls.foldlM (call env deviceEnv) x

/-- `mdr_device_free` and `mdr_device_close`. -/
def close (x : DeviceConn) : Option DeviceConn := do
  let x ← x.passOn env (← x.device.removeSubscriptions)
  x.callBack env deviceEnv (← Libmdr.close env x.conn)

end DeviceConn

/-! ## A small user -/

/-- A host with memory for `device.c`, and callbacks that do nothing. -/
def DeviceEnv.idle : DeviceEnv :=
  { malloc := fun _ => true, subscribed := fun _ => none, script := fun _ => [], depth := 1 }

/-- Callbacks that are not NULL. -/
def UserCallbacks.both : UserCallbacks := { result := some 0, error := some 1, userData := 7 }

end Libmdr
