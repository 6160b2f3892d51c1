import Libmdr.Device.Run
import Libmdr.Lib.TailList
import Libmdr.PacketConn.Subscriptions

/-!
# Subscriptions at two levels

A device subscribes through the packet connection below it and keeps a list of its own; each
of its nodes holds the handle of a node of the packet connection. Another user of the same
packet connection subscribes there directly. Both lists have a pointer to their last node, and
the two files test different pointers for an empty list.

The models of the two files number the nodes. Here each node also has the address at which
`malloc` put it, which it may give out again as soon as the node is freed: to compare pointers is
all that the code does to find a node.
-/

namespace Libmdr
set_option autoImplicit false

/-- The pointers `subscription` and `subscription_list_tail`, and the field `next` of the
nodes of the packet connection. -/
abbrev SubscriptionList := LinkedList.TailList Address

namespace SubscriptionList

/-- The end of `mdr_packetconn_subscribe`, the pointers: it tests `conn->subscription`. -/
def subscribe (address : Address) (list : SubscriptionList) : Option SubscriptionList :=
  LinkedList.TailList.append (list.first = none) address list

/-- `mdr_packetconn_remove_subscription`, the pointers. -/
def removeSubscription (pointer : Address) (list : SubscriptionList) : Option SubscriptionList :=
  LinkedList.TailList.remove pointer list

end SubscriptionList

/-- The pointers `subscriptions` and `subscriptions_tail`, and the field `next` of the nodes of
a device. -/
abbrev DeviceList := LinkedList.TailList Address

namespace DeviceList

/-- The end of `mdr_device_add_subscription`, the pointers: it tests
`device->subscriptions_tail`. -/
def addSubscription (address : Address) (list : DeviceList) : Option DeviceList :=
  LinkedList.TailList.append (list.tail = none) address list

/-- `mdr_device_remove_subscription`, the pointers. -/
def removeSubscription (pointer : Address) (list : DeviceList) : Option DeviceList :=
  LinkedList.TailList.remove pointer list

end DeviceList

/-- The addresses that `malloc` gives out. `taken` are those of the nodes that are allocated. -/
structure Malloc where
  address : Nat → List Address → Address
  fresh : ∀ k taken, address k taken ∉ taken

/-- A `malloc` that goes on behind what is taken: an address that is free may come again. -/
def Malloc.behind : Malloc where
  address := fun _ taken => taken.sum + 1
  fresh := fun _ _ isIn => Nat.not_succ_le_self _ (List.le_sum_of_mem isIn)

/-- A device and another user share a packet connection. The pointers of the two lists stand
beside them; there are none after an access that is not allowed. -/
structure Sharing where
  device : Device
  deviceList : Option DeviceList
  conn : State
  connList : Option SubscriptionList
  /-- Where `malloc` has put the nodes of the packet connection. -/
  nodeAt : Handle → Address
  /-- Where it has put those of the device. -/
  deviceNodeAt : Address → Address
  /-- The nodes that the other user's calls have made. -/
  made : List Handle

/-- A call of the public interface. A subscription is removed by any pointer. -/
inductive SharedCall
  | subscribe (spec : ReplySpecifier) (result : Option FnPtr) (userData : Nat)
  | removeSubscription (pointer : Address)
  | addDeviceSubscription (subscribe : DeviceSubscribe) (update : Option FnPtr) (userData : Nat)
  | removeDeviceSubscription (pointer : Address)
  | makeRequest (packet : Packet) (spec : ReplySpecifier) (callbacks : Callbacks)
  | process (now : Timespec) (readable writable : Bool)
  deriving DecidableEq, Repr

/-- A call on subscriptions. -/
def SharedCall.OnSubscriptions : SharedCall → Bool
  | .makeRequest .. | .process .. => false
  | _ => true

namespace Sharing

/-- A new device on a new packet connection. -/
def start (fconn : FrameConn) (host : Host) : Sharing :=
  { device := .newFromPacketconn, deviceList := some .empty, conn := State.start fconn host,
    connList := some .empty, nodeAt := id, deviceNodeAt := id, made := [] }

/-- The addresses of the packet connection's nodes, from the first one to the last. -/
def addresses (x : Sharing) : List Address := (handlesOf x.conn.conn.subscriptions).map x.nodeAt

/-- The addresses of some nodes of the device. -/
def deviceAddresses (x : Sharing) (nodes : List DeviceSubscription) : List Address :=
  nodes.map fun node => x.deviceNodeAt node.address

@[simp] theorem deviceAddresses_append (x : Sharing) (nodes nodes' : List DeviceSubscription) :
    x.deviceAddresses (nodes ++ nodes') = x.deviceAddresses nodes ++ x.deviceAddresses nodes' :=
  List.map_append

@[simp] theorem deviceAddresses_cons (x : Sharing) (node : DeviceSubscription)
    (nodes : List DeviceSubscription) : x.deviceAddresses (node :: nodes) =
      x.deviceNodeAt node.address :: x.deviceAddresses nodes :=
  rfl

variable (env : Env) (deviceEnv : DeviceEnv) (malloc : Malloc)

/-- `mdr_packetconn_subscribe`. -/
def subscribe (spec : ReplySpecifier) (result : Option FnPtr) (userData : Nat) (x : Sharing) :
    Option Handle × Sharing :=
  match Libmdr.subscribe env spec result userData x.conn with
  | (none, conn) => (none, { x with conn })
  | (some handle, conn) =>
    let address := malloc.address handle x.addresses
    (some handle,
      { x with
        conn
        connList := x.connList.bind (SubscriptionList.subscribe address)
        nodeAt := Function.update x.nodeAt handle address })

/-- The node of the packet connection at an address. -/
def nodeOf (pointer : Address) (x : Sharing) : Option Handle :=
  (handlesOf x.conn.conn.subscriptions).find? fun handle => x.nodeAt handle = pointer

/-- `mdr_packetconn_remove_subscription`. -/
def removeSubscription (pointer : Address) (x : Sharing) : Sharing :=
  { x with
    conn := match x.nodeOf pointer with
      | none => x.conn
      | some handle => Libmdr.removeSubscription handle x.conn
    connList := x.connList.bind (SubscriptionList.removeSubscription pointer) }

/-- `mdr_device_add_subscription`. -/
def addDeviceSubscription (subscribe : DeviceSubscribe) (update : Option FnPtr) (userData : Nat)
    (x : Sharing) : Option Sharing := do
  let number := x.device.nextAddress
  let nodes ← x.device.subscriptions
  let address := malloc.address number (x.deviceAddresses nodes)
  let (handle, asked) := x.subscribe env malloc subscribe.replySpecifier
    (some subscribe.updateCallback.fnPtr) number
  let device ← x.device.addSubscription { deviceEnv with subscribed := fun _ => handle } subscribe
    update userData
  if deviceEnv.malloc x.device.mallocs then
    match handle with
    | none => return { asked with device }
    | some _ =>
      return { asked with
        device
        deviceList := x.deviceList.bind (DeviceList.addSubscription address)
        deviceNodeAt := Function.update x.deviceNodeAt number address }
  else return { x with device }

/-- `mdr_device_remove_subscription`. -/
def removeDeviceSubscription (pointer : Address) (x : Sharing) : Option Sharing := do
  let nodes ← x.device.subscriptions
  let deviceList := x.deviceList.bind (DeviceList.removeSubscription pointer)
  match nodes.find? fun node => x.deviceNodeAt node.address = pointer with
  | none => return { x with deviceList }
  | some node =>
    let device ← x.device.removeSubscription node.address
    return { x.removeSubscription (x.nodeAt node.handle) with device, deviceList }

def call (x : Sharing) : SharedCall → Option Sharing
  | .subscribe spec result userData =>
    let (handle, x) := x.subscribe env malloc spec result userData
    some { x with made := x.made ++ handle.toList }
  | .removeSubscription pointer => some (x.removeSubscription pointer)
  | .addDeviceSubscription subscribe update userData =>
    x.addDeviceSubscription env deviceEnv malloc subscribe update userData
  | .removeDeviceSubscription pointer => x.removeDeviceSubscription pointer
  | .makeRequest packet spec callbacks =>
    (Libmdr.makeRequest env packet spec callbacks x.conn).map fun (_, conn) => { x with conn }
  | .process now readable writable =>
    (Libmdr.process env now readable writable x.conn).map fun (_, conn) => { x with conn }

def run (calls : List SharedCall) (x : Sharing) : Option Sharing :=
  calls.foldlM (call env deviceEnv malloc) x

/-- The pointer is the handle of a subscription of the other user that is live, or there is no
subscription at it: it is NULL, unknown, or a handle that was removed and whose address is free
or the other user's own again. -/
def Allows (x : Sharing) : SharedCall → Prop
  | .removeSubscription pointer =>
    (∃ handle ∈ x.made, handle ∈ handlesOf x.conn.conn.subscriptions ∧ x.nodeAt handle = pointer) ∨
      pointer ∉ x.addresses
  | _ => True

instance (x : Sharing) (c : SharedCall) : Decidable (x.Allows c) := by
  cases c <;> unfold Allows <;> infer_instance

/-- Each call of a run is allowed when it is made. -/
def AllowsAll (x : Sharing) : List SharedCall → Prop
  | [] => True
  | c :: rest => x.Allows c ∧ ∀ y ∈ x.call env deviceEnv malloc c, y.AllowsAll rest

instance decidableAllowsAll (x : Sharing) :
    ∀ calls, Decidable (x.AllowsAll env deviceEnv malloc calls)
  | [] => inferInstanceAs (Decidable True)
  | c :: rest =>
    have (y : Sharing) : Decidable (y.AllowsAll env deviceEnv malloc rest) :=
      decidableAllowsAll y rest
    inferInstanceAs (Decidable (x.Allows c ∧
      ∀ y ∈ x.call env deviceEnv malloc c, y.AllowsAll env deviceEnv malloc rest))

end Sharing

/-! ## The invariant -/

namespace Sharing

/-- Both lists are linked, and each node of the device holds the handle of a node of its own in
the packet connection, which the other user does not have. -/
structure Linked (x : Sharing) (nodes : List DeviceSubscription) : Prop where
  device : x.device.subscriptions = some nodes
  deviceList : ∃ list, x.deviceList = some list ∧ list.Represents (x.deviceAddresses nodes)
  connList : ∃ list, x.connList = some list ∧ list.Represents x.addresses
  ordered : x.conn.Ordered
  addressed : ∀ node ∈ nodes, node.address < x.device.nextAddress
  live : ∀ node ∈ nodes, node.handle ∈ handlesOf x.conn.conn.subscriptions
  distinct : (nodes.map DeviceSubscription.handle).Nodup
  kept : ∀ node ∈ nodes, node.handle ∉ x.made
  known : ∀ handle ∈ x.made, handle < x.conn.nextHandle

theorem linked_start (fconn : FrameConn) (host : Host) : (start fconn host).Linked [] where
  device := rfl
  deviceList := ⟨_, rfl, LinkedList.TailList.represents_empty⟩
  connList := ⟨_, rfl, LinkedList.TailList.represents_empty⟩
  ordered := ordered_start fconn host
  addressed := fun _ isIn => by cases isIn
  live := fun _ isIn => by cases isIn
  distinct := List.nodup_nil
  kept := fun _ isIn => by cases isIn
  known := fun _ isIn => by cases isIn

/-- The numbers of the nodes only grow. -/
theorem mono_invariant (n : Handle) : ReadInvariant fun s => n ≤ s.nextHandle where
  noRead := fun _ _ noRead bound => Nat.le_trans bound noRead.mono
  read := fun _ _ _ _ _ bound => bound

/-- The node behind a node, as the loop over the subscriptions finds it, is the one that the
pointers lead to. -/
theorem lookup_eq_nextSubscription {list : SubscriptionList} {nodes : List Subscription}
    {place : Handle → Address} (represents : list.Represents ((handlesOf nodes).map place))
    {handle : Handle} (isIn : handle ∈ handlesOf nodes) :
    list.next.lookup (place handle) = (nextSubscription handle nodes).map (Option.map place) := by
  obtain ⟨node, isNode, rfl⟩ := List.mem_map.mp isIn
  obtain ⟨before, after, rfl⟩ := List.append_of_mem isNode
  have nodup := List.Nodup.of_map place represents.nodes.nodup
  rw [handlesOf, List.map_append, List.map_cons] at represents nodup
  rw [List.map_append, List.map_cons] at represents
  have distinct := (List.nodup_append.mp nodup).2.2
  have first (other : Subscription) (isOther : other ∈ before) : other.handle ≠ node.handle :=
    distinct other.handle (List.mem_map_of_mem isOther) node.handle List.mem_cons_self
  rw [represents.lookup, (nextSubscription_split after first).2, List.head?_map, List.head?_map]
  rfl

/-- A new node does not change where the others are. -/
theorem map_update {number : Nat} {numbers : List Nat} (fresh : number ∉ numbers)
    (place : Nat → Address) (address : Address) :
    numbers.map (Function.update place number address) = numbers.map place :=
  List.map_congr_left fun _ isIn =>
    Function.update_of_ne (ne_of_mem_of_not_mem isIn fresh) address place

section Calls

variable {env : Env} {deviceEnv : DeviceEnv} {malloc : Malloc} {x y : Sharing}
  {nodes : List DeviceSubscription}

theorem Linked.bounded (linked : x.Linked nodes) {handle : Handle}
    (isIn : handle ∈ handlesOf x.conn.conn.subscriptions) : handle < x.conn.nextHandle := by
  obtain ⟨node, isNode, rfl⟩ := List.mem_map.mp isIn
  exact linked.ordered.bounded node isNode

/-- The packet connection's nodes are at different addresses. -/
theorem Linked.nodeAt_inj (linked : x.Linked nodes) {a b : Handle}
    (isIn : a ∈ handlesOf x.conn.conn.subscriptions)
    (isIn' : b ∈ handlesOf x.conn.conn.subscriptions) (same : x.nodeAt a = x.nodeAt b) : a = b := by
  obtain ⟨list, -, represents⟩ := linked.connList
  exact List.inj_on_of_nodup_map represents.nodes.nodup isIn isIn' same

/-- What the connection does to its requests leaves the lists alone. -/
theorem Linked.elsewhere (linked : x.Linked nodes) {conn : State} (ordered : conn.Ordered)
    (subscriptions : conn.conn.subscriptions = x.conn.conn.subscriptions)
    (mono : x.conn.nextHandle ≤ conn.nextHandle) : { x with conn }.Linked nodes where
  device := linked.device
  deviceList := linked.deviceList
  connList := by
    unfold addresses
    rw [subscriptions]
    exact linked.connList
  ordered := ordered
  addressed := linked.addressed
  live := by
    rw [subscriptions]
    exact linked.live
  distinct := linked.distinct
  kept := linked.kept
  known := fun handle isIn => Nat.lt_of_lt_of_le (linked.known handle isIn) mono

/-- Nodes of the device go, the packet connection keeps its own. -/
theorem Linked.ofSublist (linked : x.Linked nodes) {device : Device} {list : DeviceList}
    {fewer : List DeviceSubscription} (sub : fewer.Sublist nodes)
    (subscriptions : device.subscriptions = some fewer)
    (mono : x.device.nextAddress ≤ device.nextAddress)
    (represents : list.Represents (x.deviceAddresses fewer)) :
    { x with device, deviceList := some list }.Linked fewer where
  device := subscriptions
  deviceList := ⟨list, rfl, represents⟩
  connList := linked.connList
  ordered := linked.ordered
  addressed := fun node isIn =>
    Nat.lt_of_lt_of_le (linked.addressed node (sub.subset isIn)) mono
  live := fun node isIn => linked.live node (sub.subset isIn)
  distinct := (sub.map _).nodup linked.distinct
  kept := fun node isIn => linked.kept node (sub.subset isIn)
  known := linked.known

/-- Calls of `device.c` that leave its list alone. -/
theorem Linked.ofDevice (linked : x.Linked nodes) {device : Device}
    (subscriptions : device.subscriptions = some nodes)
    (mono : x.device.nextAddress ≤ device.nextAddress) : { x with device }.Linked nodes := by
  obtain ⟨list, isList, represents⟩ := linked.deviceList
  have linked' := linked.ofSublist (.refl nodes) subscriptions mono represents
  rwa [← isList] at linked'

/-- What `mdr_packetconn_subscribe` does: no memory, or a node behind the last one. -/
theorem subscribe_cases (env : Env) (spec : ReplySpecifier) (result : Option FnPtr)
    (userData : Nat) (s : State) :
    (∃ t, Libmdr.subscribe env spec result userData s = (none, t) ∧
      t.conn.subscriptions = s.conn.subscriptions ∧ t.nextHandle = s.nextHandle) ∨
    ∃ t node, Libmdr.subscribe env spec result userData s = (some s.nextHandle, t) ∧
      t.conn.subscriptions = s.conn.subscriptions ++ [node] ∧ node.handle = s.nextHandle ∧
      t.nextHandle = s.nextHandle + 1 := by
  unfold Libmdr.subscribe
  split
  · exact .inl ⟨_, rfl, rfl, rfl⟩
  · exact .inr ⟨_, _, rfl, rfl, rfl, rfl⟩

/-- A subscription at the level of the packet connection, by either user. -/
theorem Linked.subscribe (linked : x.Linked nodes) (env : Env) (malloc : Malloc)
    (spec : ReplySpecifier) (result : Option FnPtr) (userData : Nat) :
    ∃ handle y, x.subscribe env malloc spec result userData = (handle, y) ∧ y.Linked nodes ∧
      y.device = x.device ∧ y.deviceList = x.deviceList ∧ y.deviceNodeAt = x.deviceNodeAt ∧
      y.made = x.made ∧
      ∀ h, handle = some h → h ∈ handlesOf y.conn.conn.subscriptions ∧
        (∀ node ∈ nodes, node.handle ≠ h) ∧ h ∉ x.made := by
  have ordered := (subscribe_noRead env spec result userData x.conn).ordered linked.ordered
  rcases subscribe_cases env spec result userData x.conn with
    ⟨t, asked, subscriptions, next⟩ | ⟨t, node, asked, subscriptions, isNode, next⟩ <;>
    rw [asked] at ordered
  · refine ⟨none, { x with conn := t }, by simp only [Sharing.subscribe, asked], ?_, rfl, rfl, rfl,
      rfl, (fun h none => by cases none)⟩
    exact linked.elsewhere ordered subscriptions (Nat.le_of_eq next.symm)
  · have fresh : x.conn.nextHandle ∉ handlesOf x.conn.conn.subscriptions :=
      fun isIn => Nat.lt_irrefl _ (linked.bounded isIn)
    obtain ⟨list, isList, represents⟩ := linked.connList
    have tested : decide (list.first = none) = true ↔ x.addresses = [] := by
      rw [decide_eq_true_eq, represents.first_eq_none]
    obtain ⟨list', appended, represents'⟩ :=
      represents.append tested (malloc.fresh x.conn.nextHandle x.addresses)
    have handles : handlesOf t.conn.subscriptions =
        handlesOf x.conn.conn.subscriptions ++ [x.conn.nextHandle] := by
      rw [subscriptions, handlesOf, List.map_append, List.map_singleton, isNode]
      rfl
    let address := malloc.address x.conn.nextHandle x.addresses
    let y : Sharing :=
      { x with
        conn := t
        connList := some list'
        nodeAt := Function.update x.nodeAt x.conn.nextHandle address }
    have addresses : y.addresses = x.addresses ++ [address] := by
      rw [Sharing.addresses, handles, List.map_append, List.map_singleton, map_update fresh]
      exact congrArg (fun last => x.addresses ++ [last]) (Function.update_self _ _ _)
    refine ⟨some x.conn.nextHandle, y, ?_, ?_, rfl, rfl, rfl, rfl, ?_⟩
    · simp only [Sharing.subscribe, asked, isList]
      exact congrArg (fun list => (_, { y with connList := list })) appended
    · constructor
      case device => exact linked.device
      case deviceList => exact linked.deviceList
      case connList => exact ⟨list', rfl, by rw [addresses]; exact represents'⟩
      case ordered => exact ordered
      case addressed => exact linked.addressed
      case live =>
        rw [handles]
        exact fun node isIn => List.mem_append_left _ (linked.live node isIn)
      case distinct => exact linked.distinct
      case kept => exact linked.kept
      case known =>
        rw [next]
        exact fun handle isIn => Nat.lt_succ_of_lt (linked.known handle isIn)
    · rintro h ⟨⟩
      refine ⟨by rw [handles]; simp, fun node isIn same => ?_, fun isIn => ?_⟩
      · exact fresh (same ▸ linked.live node isIn)
      · exact Nat.lt_irrefl _ (linked.known _ isIn)

theorem handlesOf_removeSubscription (handle : Handle) (s : State) :
    handlesOf (Libmdr.removeSubscription handle s).conn.subscriptions =
      (handlesOf s.conn.subscriptions).erase handle :=
  handlesOf_eraseP s.conn.subscriptions handle

/-- The element that is found is the one that is removed, and so is its image. -/
theorem map_erase_of_find? {α β : Type} [DecidableEq α] [DecidableEq β] {f : α → β} {l : List α}
    {a : α} {b : β} (found : (l.find? fun a => f a = b) = some a) :
    (l.erase a).map f = (l.map f).erase b := by
  obtain ⟨isAt, before, after, rfl, others⟩ := List.find?_eq_some_iff_append.mp found
  rw [decide_eq_true_eq] at isAt
  have notBefore (c : α) (isIn : c ∈ before) : f c ≠ b := by simpa using others c isIn
  have notIn : a ∉ before := fun isIn => notBefore a isIn isAt
  have notImage : b ∉ before.map f := by
    rw [List.mem_map]
    rintro ⟨c, isIn, same⟩
    exact notBefore c isIn same
  rw [List.erase_append_right _ notIn, List.erase_cons_head, List.map_append, List.map_append,
    List.erase_append_right _ notImage, List.map_cons, isAt, List.erase_cons_head]

/-- `mdr_packetconn_remove_subscription` removes the node at the address, if there is one. -/
theorem addresses_removeSubscription (pointer : Address) (x : Sharing) :
    (x.removeSubscription pointer).addresses = x.addresses.erase pointer := by
  simp only [addresses, removeSubscription]
  cases found : x.nodeOf pointer with
  | none =>
    have nowhere := List.find?_eq_none.mp found
    refine (List.erase_of_not_mem fun isIn => ?_).symm
    obtain ⟨handle, isNode, isAt⟩ := List.mem_map.mp isIn
    exact nowhere handle isNode (decide_eq_true isAt)
  | some handle =>
    dsimp only
    rw [handlesOf_removeSubscription]
    exact map_erase_of_find? found

/-- A node at another address is not removed. -/
theorem mem_removeSubscription {pointer : Address} {x : Sharing} {handle : Handle}
    (isIn : handle ∈ handlesOf x.conn.conn.subscriptions) (other : x.nodeAt handle ≠ pointer) :
    handle ∈ handlesOf (x.removeSubscription pointer).conn.conn.subscriptions := by
  simp only [removeSubscription]
  cases found : x.nodeOf pointer with
  | none => exact isIn
  | some gone =>
    dsimp only
    rw [handlesOf_removeSubscription]
    have isAt : x.nodeAt gone = pointer := by simpa using List.find?_some found
    refine (List.mem_erase_of_ne fun same => other ?_).mpr isIn
    rw [same, isAt]

theorem removal_noRead (pointer : Address) (x : Sharing) :
    x.conn.NoRead (x.removeSubscription pointer).conn := by
  simp only [removeSubscription]
  cases x.nodeOf pointer with
  | none => exact .refl _
  | some handle => exact Libmdr.removeSubscription_noRead handle x.conn

/-- A node of the packet connection is removed that no node in question holds. -/
theorem Linked.removeSubscription (linked : x.Linked nodes) {pointer : Address}
    (free : ∀ node ∈ nodes, x.nodeAt node.handle ≠ pointer) :
    (x.removeSubscription pointer).Linked nodes where
  device := linked.device
  deviceList := linked.deviceList
  connList := by
    obtain ⟨list, isList, represents⟩ := linked.connList
    obtain ⟨list', removed, represents'⟩ := represents.remove pointer
    refine ⟨list', ?_, ?_⟩
    · rw [Sharing.removeSubscription, isList]
      exact removed
    · rw [addresses_removeSubscription]
      exact represents'
  ordered := (removal_noRead pointer x).ordered linked.ordered
  addressed := linked.addressed
  live := fun node isIn => mem_removeSubscription (linked.live node isIn) (free node isIn)
  distinct := linked.distinct
  kept := linked.kept
  known := fun handle isIn => Nat.lt_of_lt_of_le (linked.known handle isIn)
    (removal_noRead pointer x).mono

/-- A pointer that the other user may pass is the handle of no node of the device. -/
theorem Linked.allowed_free (linked : x.Linked nodes) {pointer : Address}
    (allowed : x.Allows (.removeSubscription pointer)) :
    ∀ node ∈ nodes, x.nodeAt node.handle ≠ pointer := by
  rintro node isIn rfl
  rcases allowed with ⟨handle, isMade, isLive, same⟩ | nowhere
  · obtain rfl := linked.nodeAt_inj isLive (linked.live node isIn) same
    exact linked.kept node isIn isMade
  · exact nowhere (List.mem_map_of_mem (linked.live node isIn))

/-- The device puts a node behind its others, with a handle that nobody else has. -/
theorem Linked.addNode (linked : x.Linked nodes) {device : Device} (node : DeviceSubscription)
    (number : node.address = x.device.nextAddress)
    (subscriptions : device.subscriptions = some (nodes ++ [node]))
    (mono : x.device.nextAddress < device.nextAddress)
    (isLive : node.handle ∈ handlesOf x.conn.conn.subscriptions)
    (notHeld : ∀ other ∈ nodes, other.handle ≠ node.handle) (notMade : node.handle ∉ x.made)
    {address : Address} (free : address ∉ x.deviceAddresses nodes) :
    { x with
      device
      deviceList := x.deviceList.bind (DeviceList.addSubscription address)
      deviceNodeAt := Function.update x.deviceNodeAt node.address address }.Linked
        (nodes ++ [node]) where
  device := subscriptions
  deviceList := by
    obtain ⟨list, isList, represents⟩ := linked.deviceList
    have fresh : node.address ∉ nodes.map DeviceSubscription.address := by
      intro isIn
      obtain ⟨other, isOther, same⟩ := List.mem_map.mp isIn
      exact Nat.lt_irrefl _ ((same.trans number) ▸ linked.addressed other isOther)
    have tested : decide (list.tail = none) = true ↔ x.deviceAddresses nodes = [] := by
      rw [decide_eq_true_eq, represents.tail_eq_none]
    obtain ⟨list', appended, represents'⟩ := represents.append tested free
    refine ⟨list', ?_, ?_⟩
    · rw [isList]
      exact appended
    · have others := map_update fresh x.deviceNodeAt address
      rw [List.map_map, List.map_map] at others
      simp only [deviceAddresses, List.map_append, List.map_singleton, Function.update_self]
      exact (congrArg (· ++ [address]) others.symm) ▸ represents'
  connList := linked.connList
  ordered := linked.ordered
  addressed := by
    rw [List.forall_mem_append, List.forall_mem_singleton]
    exact ⟨fun other isIn => Nat.lt_trans (linked.addressed other isIn) mono, number ▸ mono⟩
  live := by
    rw [List.forall_mem_append, List.forall_mem_singleton]
    exact ⟨linked.live, isLive⟩
  distinct := by
    rw [List.map_append, List.nodup_append]
    refine ⟨linked.distinct, List.nodup_singleton _, ?_⟩
    intro other isOther h isLast same
    obtain ⟨held, isHeld, rfl⟩ := List.mem_map.mp isOther
    rw [List.map_singleton, List.mem_singleton] at isLast
    exact notHeld held isHeld (same.trans isLast)
  kept := by
    rw [List.forall_mem_append, List.forall_mem_singleton]
    exact ⟨linked.kept, notMade⟩
  known := linked.known

theorem Linked.addDeviceSubscription (linked : x.Linked nodes) (subscribe : DeviceSubscribe)
    (update : Option FnPtr) (userData : Nat) :
    ∃ y nodes', x.addDeviceSubscription env deviceEnv malloc subscribe update userData = some y ∧
      y.Linked nodes' := by
  obtain ⟨handle, z, asked, linked', device, deviceList, places, made, new⟩ :=
    linked.subscribe env malloc subscribe.replySpecifier (some subscribe.updateCallback.fnPtr)
      x.device.nextAddress
  simp only [Sharing.addDeviceSubscription, linked.device, asked, Device.addSubscription,
    Device.malloc, Option.bind_eq_bind, Option.bind_some]
  cases deviceEnv.malloc x.device.mallocs with
  | false => exact ⟨_, nodes, rfl, linked.ofDevice rfl (Nat.le_refl _)⟩
  | true =>
    have later : z.device.nextAddress < x.device.nextAddress + 1 := by
      rw [device]
      exact Nat.lt_succ_self _
    cases handle with
    | none => exact ⟨_, nodes, rfl, linked'.ofDevice rfl (Nat.le_of_lt later)⟩
    | some handle =>
      obtain ⟨isLive, notHeld, notMade⟩ := new handle rfl
      have free := malloc.fresh x.device.nextAddress (x.deviceAddresses nodes)
      have same : z.deviceAddresses nodes = x.deviceAddresses nodes := by
        rw [deviceAddresses, places, deviceAddresses]
      rw [← same] at free
      rw [← deviceList, ← places, ← same]
      rw [← made] at notMade
      have isNext : x.device.nextAddress = z.device.nextAddress := by rw [device]
      let node : DeviceSubscription :=
        { address := x.device.nextAddress, userResultCallback := update, userData, handle }
      exact ⟨_, _, rfl, linked'.addNode node isNext rfl later isLive notHeld notMade free⟩

/-- A node is found and removed by its number. -/
theorem found_by_number {node : DeviceSubscription} {before : List DeviceSubscription}
    (after : List DeviceSubscription) (first : ∀ other ∈ before, other.address ≠ node.address) :
    ((before ++ node :: after).find? fun other => other.address = node.address) = some node ∧
      ((before ++ node :: after).eraseP fun other => other.address = node.address) =
        before ++ after := by
  have notBefore (other : DeviceSubscription) (isIn : other ∈ before) :
      ¬ decide (other.address = node.address) = true := by simpa using first other isIn
  rw [List.find?_append, List.find?_eq_none.mpr notBefore, Option.none_or,
    List.eraseP_append_right _ notBefore]
  constructor <;> simp

theorem Linked.removeDeviceSubscription (linked : x.Linked nodes) (pointer : Address) :
    ∃ y nodes', x.removeDeviceSubscription pointer = some y ∧ y.Linked nodes' := by
  obtain ⟨list, isList, represents⟩ := linked.deviceList
  obtain ⟨list', removed, represents'⟩ := represents.remove pointer
  have unlinked : x.deviceList.bind (DeviceList.removeSubscription pointer) = some list' := by
    rw [isList]
    exact removed
  simp only [Sharing.removeDeviceSubscription, linked.device, Option.bind_eq_bind,
    Option.bind_some]
  cases isFound : nodes.find? fun node => x.deviceNodeAt node.address = pointer with
  | none =>
    have nowhere : pointer ∉ x.deviceAddresses nodes := by
      intro isIn
      obtain ⟨node, isNode, isAt⟩ := List.mem_map.mp isIn
      exact List.find?_eq_none.mp isFound node isNode (decide_eq_true isAt)
    rw [List.erase_of_not_mem nowhere] at represents'
    exact ⟨_, nodes, rfl, { linked with deviceList := ⟨list', unlinked, represents'⟩ }⟩
  | some node =>
    obtain ⟨found, before, after, rfl, others⟩ := List.find?_eq_some_iff_append.mp isFound
    rw [decide_eq_true_eq] at found
    have notBefore (other : DeviceSubscription) (isIn : other ∈ before) :
        x.deviceNodeAt other.address ≠ pointer := by simpa using others other isIn
    have notNode (other : DeviceSubscription) (isIn : other ∈ before) :
        other.address ≠ node.address := by
      intro same
      exact notBefore other isIn (by rw [same, found])
    obtain ⟨isNode, erased⟩ := found_by_number after notNode
    have erasedAddress : (x.deviceAddresses (before ++ node :: after)).erase pointer =
        x.deviceAddresses (before ++ after) := by
      have notIn : pointer ∉ x.deviceAddresses before := by
        intro isIn
        obtain ⟨other, isOther, isAt⟩ := List.mem_map.mp isIn
        exact notBefore other isOther isAt
      rw [deviceAddresses_append, deviceAddresses_cons, found, List.erase_append_right _ notIn,
        List.erase_cons_head, deviceAddresses_append]
    rw [erasedAddress] at represents'
    have apart : ∀ other ∈ before ++ after, other.handle ≠ node.handle := by
      have distinct := linked.distinct
      rw [List.map_append, List.map_cons, List.nodup_middle, ← List.map_append] at distinct
      intro other isIn same
      exact (List.nodup_cons.mp distinct).1 (same ▸ List.mem_map_of_mem isIn)
    have fewer : (before ++ after).Sublist (before ++ node :: after) :=
      (List.Sublist.refl _).append (List.sublist_cons_self _ _)
    have free : ∀ other ∈ before ++ after, x.nodeAt other.handle ≠ x.nodeAt node.handle := by
      intro other isIn same
      refine apart other isIn (linked.nodeAt_inj (linked.live other (fewer.subset isIn)) ?_ same)
      exact linked.live node (by simp)
    have subscriptions : ({ x.device.record (.removed node.handle) with
        subscriptions := some (before ++ after) } : Device).subscriptions =
          some (before ++ after) := rfl
    have linked' := linked.ofSublist fewer subscriptions (Nat.le_refl _) represents'
    rw [← unlinked] at linked'
    simp only [Device.removeSubscription, linked.device, Option.bind_eq_bind, Option.bind_some,
      isNode, erased]
    exact ⟨_, _, rfl, linked'.removeSubscription free⟩

/-- A handle is given to the other user that no node of the device holds. -/
theorem Linked.give (linked : x.Linked nodes) {handle : Option Handle}
    (new : ∀ h, handle = some h → (∀ node ∈ nodes, node.handle ≠ h) ∧ h < x.conn.nextHandle) :
    { x with made := x.made ++ handle.toList }.Linked nodes := by
  refine { linked with kept := fun node isIn isMade => ?_, known := fun h isMade => ?_ }
  · rcases List.mem_append.mp isMade with old | last
    · exact linked.kept node isIn old
    · exact (new node.handle (Option.mem_toList.mp last)).1 node isIn rfl
  · rcases List.mem_append.mp isMade with old | last
    · exact linked.known h old
    · exact (new h (Option.mem_toList.mp last)).2

/-- A call on subscriptions that is allowed returns and keeps the lists linked. -/
theorem Linked.call_returns (linked : x.Linked nodes) (env : Env) (deviceEnv : DeviceEnv)
    (malloc : Malloc) {c : SharedCall} (allowed : x.Allows c)
    (onSubscriptions : c.OnSubscriptions = true) :
    ∃ y nodes', x.call env deviceEnv malloc c = some y ∧ y.Linked nodes' := by
  cases c with
  | subscribe spec result userData =>
    obtain ⟨handle, y, asked, linked', -, -, -, made, new⟩ :=
      linked.subscribe env malloc spec result userData
    refine ⟨{ y with made := y.made ++ handle.toList }, nodes,
      by simp only [Sharing.call, asked], linked'.give fun h same => ?_⟩
    obtain ⟨isLive, notHeld, -⟩ := new h same
    exact ⟨notHeld, linked'.bounded isLive⟩
  | removeSubscription pointer =>
    exact ⟨_, nodes, rfl, linked.removeSubscription (linked.allowed_free allowed)⟩
  | addDeviceSubscription subscribe update userData =>
    exact linked.addDeviceSubscription subscribe update userData
  | removeDeviceSubscription pointer => exact linked.removeDeviceSubscription pointer
  | makeRequest packet spec callbacks => cases onSubscriptions
  | process now readable writable => cases onSubscriptions

/-- Every call that is allowed keeps the lists linked. -/
theorem Linked.call (keeps : env.KeepsList) (linked : x.Linked nodes) {c : SharedCall}
    (allowed : x.Allows c) (called : x.call env deviceEnv malloc c = some y) :
    ∃ nodes', y.Linked nodes' := by
  by_cases onSubscriptions : c.OnSubscriptions = true
  · obtain ⟨y', nodes', returned, linked'⟩ :=
      linked.call_returns env deviceEnv malloc allowed onSubscriptions
    cases returned.symm.trans called
    exact ⟨nodes', linked'⟩
  cases c with
  | makeRequest packet spec callbacks =>
    obtain ⟨⟨handle, conn⟩, made, rfl⟩ := Option.map_eq_some_iff.mp called
    have noRead := makeRequest_noRead made
    exact ⟨nodes, linked.elsewhere (noRead.ordered linked.ordered)
      (makeRequest_subscriptions made) noRead.mono⟩
  | process now readable writable =>
    obtain ⟨⟨result, conn⟩, processed, rfl⟩ := Option.map_eq_some_iff.mp called
    exact ⟨nodes, linked.elsewhere (ordered_invariant.process processed linked.ordered)
      (process_subscriptions keeps linked.ordered processed)
      ((mono_invariant x.conn.nextHandle).process processed (Nat.le_refl _))⟩
  | _ => exact absurd rfl onSubscriptions

theorem Linked.run (keeps : env.KeepsList) {calls : List SharedCall} (linked : x.Linked nodes)
    (allowed : x.AllowsAll env deviceEnv malloc calls)
    (ran : x.run env deviceEnv malloc calls = some y) : ∃ nodes', y.Linked nodes' := by
  induction calls generalizing x nodes with
  | nil =>
    cases ran
    exact ⟨nodes, linked⟩
  | cons c rest ih =>
    obtain ⟨first, later⟩ := allowed
    simp only [Sharing.run, List.foldlM_cons, Option.bind_eq_bind, Option.bind_eq_some_iff] at ran
    obtain ⟨z, called, ran⟩ := ran
    obtain ⟨nodes', linked'⟩ := linked.call keeps first called
    exact ih linked' (later z called) ran

end Calls

/-! ## What the subscriptions do -/

/-- Both lists lead through their nodes and end at their tails, a device's node has its node in
the packet connection, calls on subscriptions return, and a packet that is read goes where
it is asked for. -/
structure Serves (env : Env) (deviceEnv : DeviceEnv) (malloc : Malloc) (x : Sharing) : Prop where
  connList : ∃ list, x.connList = some list ∧ list.Acyclic x.addresses ∧
    (∀ handle ∈ handlesOf x.conn.conn.subscriptions, list.next.lookup (x.nodeAt handle) =
      (nextSubscription handle x.conn.conn.subscriptions).map (Option.map x.nodeAt)) ∧
    ∀ pointer ∉ x.addresses, list.next.lookup pointer = none
  deviceList : ∃ list nodes, x.deviceList = some list ∧ x.device.subscriptions = some nodes ∧
    list.Acyclic (x.deviceAddresses nodes) ∧
    ∀ node ∈ nodes, node.handle ∈ handlesOf x.conn.conn.subscriptions
  returns : ∀ c : SharedCall, c.OnSubscriptions = true →
    (x.call env deviceEnv malloc c).isSome
  delivers : ∀ now writable frame before packet,
    readsFrame env now writable x.conn = some (some frame, before) →
    frame.dataType = frameDataTypeDataMdr → parsedPacket env frame before = some packet →
    (∀ result after, Libmdr.process env now true writable x.conn = some (result, after) →
      ∃ events, after.log = before.log ++ events ∧ notifiedIn events =
        if before.Consumes packet then [] else deliveries packet x.conn.conn.subscriptions) ∧
    (env.CallbacksReturn → x.conn.conn.subscriptions.length ≤ env.limit →
      (Libmdr.process env now true writable x.conn).isSome)

/-- After any calls, in any order, the subscriptions do what they are for, as long as no callback
changes the list. `malloc` may give out the address of any node that was freed; what the other
user passes to be removed is then not the handle in a node of the device. -/
theorem serves_of_run {env : Env} {deviceEnv : DeviceEnv} {malloc : Malloc} {fconn : FrameConn}
    {host : Host} {calls : List SharedCall} {x : Sharing} (keeps : env.KeepsList)
    (allowed : (start fconn host).AllowsAll env deviceEnv malloc calls)
    (ran : (start fconn host).run env deviceEnv malloc calls = some x) :
    x.Serves env deviceEnv malloc := by
  obtain ⟨nodes, linked⟩ := (linked_start fconn host).run keeps allowed ran
  refine ⟨?_, ?_, fun c onSubscriptions => ?_, ?_⟩
  · obtain ⟨list, isList, represents⟩ := linked.connList
    refine ⟨list, isList, represents.acyclic, ?_, fun pointer nowhere => ?_⟩
    · exact fun handle isIn => lookup_eq_nextSubscription represents isIn
    · exact AList.lookup_eq_none.mpr fun isNode => nowhere (represents.allocated pointer isNode)
  · obtain ⟨list, isList, represents⟩ := linked.deviceList
    exact ⟨list, nodes, isList, linked.device, represents.acyclic, linked.live⟩
  · by_cases isRemoval : ∃ pointer, c = .removeSubscription pointer
    · obtain ⟨pointer, rfl⟩ := isRemoval
      rfl
    · have allowed : x.Allows c := by
        cases c <;> first | trivial | exact absurd ⟨_, rfl⟩ isRemoval
      obtain ⟨y, -, called, -⟩ := linked.call_returns env deviceEnv malloc allowed onSubscriptions
      exact Option.isSome_iff_exists.mpr ⟨y, called⟩
  · intro now writable frame before packet reads isData parsed
    exact ⟨fun result after run => process_delivers keeps linked.ordered reads isData parsed run,
      fun returns enough => process_returns keeps returns enough linked.ordered reads isData parsed⟩

/-- The other user removes its subscription and makes one that is put at the same address. That
one is the first of three when it is removed, and it is removed again; the device's second one is
the last of both lists when it goes. -/
theorem serves_of_run_removed :
    ∃ x, (start .fresh (.listing [] [])).run Env.idle DeviceEnv.idle .behind
        [.subscribe (.packet .commonNtfyBatteryLevel 0) (some 9) 0, .removeSubscription 1,
          .subscribe (.packet .commonNtfyBatteryLevel 0) (some 9) 0,
          .addDeviceSubscription
            (Device.subscribeBattery .battery .subscribeBatteryLevelUpdate) none 7,
          .addDeviceSubscription
            (Device.subscribeBattery .battery .subscribeBatteryLevelUpdate) none 8,
          .removeSubscription 1, .removeSubscription 1, .removeDeviceSubscription 2,
          .removeDeviceSubscription 2] = some x ∧
      x.Serves Env.idle DeviceEnv.idle .behind ∧ x.addresses = [2] := by
  obtain ⟨x, ran, remaining⟩ := (Option.any_eq_true _ _).mp (show
    ((start .fresh (.listing [] [])).run Env.idle DeviceEnv.idle .behind
      [.subscribe (.packet .commonNtfyBatteryLevel 0) (some 9) 0, .removeSubscription 1,
        .subscribe (.packet .commonNtfyBatteryLevel 0) (some 9) 0,
        .addDeviceSubscription
          (Device.subscribeBattery .battery .subscribeBatteryLevelUpdate) none 7,
        .addDeviceSubscription
          (Device.subscribeBattery .battery .subscribeBatteryLevelUpdate) none 8,
        .removeSubscription 1, .removeSubscription 1, .removeDeviceSubscription 2,
        .removeDeviceSubscription 2]).any (fun x => x.addresses = [2]) = true by decide +kernel)
  refine ⟨x, ran, serves_of_run (fun _ _ isIn => by cases isIn) ?_ ran, of_decide_eq_true remaining⟩
  decide +kernel

/-- A subscription is removed, and one that the device makes is put at its address: to remove the
first one again frees the node that the device holds. -/
theorem not_serves_of_run_reused :
    ∃ x, (start .fresh (.listing [] [])).run Env.idle DeviceEnv.idle .behind
        [.subscribe (.packet .commonNtfyBatteryLevel 0) (some 9) 0, .removeSubscription 1,
          .addDeviceSubscription
            (Device.subscribeBattery .battery .subscribeBatteryLevelUpdate) none 7,
          .removeSubscription 1] = some x ∧
      ¬ x.Serves Env.idle DeviceEnv.idle .behind := by
  obtain ⟨x, ran, gone⟩ := (Option.any_eq_true _ _).mp (show
    ((start .fresh (.listing [] [])).run Env.idle DeviceEnv.idle .behind
      [.subscribe (.packet .commonNtfyBatteryLevel 0) (some 9) 0, .removeSubscription 1,
        .addDeviceSubscription
          (Device.subscribeBattery .battery .subscribeBatteryLevelUpdate) none 7,
        .removeSubscription 1]).any (fun x => x.conn.conn.subscriptions = [] ∧
          x.device.subscriptions.any (· ≠ []) = true) = true by decide +kernel)
  obtain ⟨empty, held⟩ := of_decide_eq_true gone
  refine ⟨x, ran, fun serves => ?_⟩
  obtain ⟨list, nodes, -, isNodes, -, live⟩ := serves.deviceList
  rw [isNodes] at held
  obtain ⟨node, isNode⟩ := List.exists_mem_of_ne_nil nodes (of_decide_eq_true held)
  have isIn := live node isNode
  rw [empty] at isIn
  cases isIn

end Sharing

end Libmdr
