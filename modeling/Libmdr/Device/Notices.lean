import Libmdr.Device.Origin
import Libmdr.Device.Reported
import Libmdr.PacketConn.Notices

/-!
# Updates are read off the wire

What the callback of a device's subscription is called with was read of a packet that the operation
of this subscription waits for. The device finds the node by its address, and the packet connection
knows the specifier: they belong together, for no two nodes have the same address.
-/

namespace Libmdr
set_option autoImplicit false

/-! ## Nodes have addresses of their own -/

def DeviceEvent.subscribed? : DeviceEvent → Option (Address × DeviceSubscribe)
  | .subscribed address subscribe => some (address, subscribe)
  | _ => none

/-- The nodes with which the packet connection was called. -/
def subscribedIn (events : List DeviceEvent) : List (Address × DeviceSubscribe) :=
  events.filterMap DeviceEvent.subscribed?

theorem subscribedIn_concat (past : List DeviceEvent) (event : DeviceEvent) :
    subscribedIn (past ++ [event]) = subscribedIn past ++ event.subscribed?.toList := by
  cases event <;> simp [subscribedIn, DeviceEvent.subscribed?]

namespace Ledger

/-- Each node is put at a new address. -/
structure Placed (past : List DeviceEvent) (l : Ledger) : Prop where
  increasing : (subscribedIn past).Pairwise fun a b => a.1 < b.1
  below : ∀ placed ∈ subscribedIn past, placed.1 < l.nextAddress

theorem Placed.step {past : List DeviceEvent} {l l' : Ledger} {event : DeviceEvent}
    (placed : Placed past l) (step : Step l event l') : Placed (past ++ [event]) l' := by
  obtain ⟨increasing, below⟩ := placed
  have other (none : event.subscribed? = .none) (mono : l.nextAddress ≤ l'.nextAddress) :
      Placed (past ++ [event]) l' := by
    have same : subscribedIn (past ++ [event]) = subscribedIn past := by
      rw [subscribedIn_concat, none, Option.toList_none, List.append_nil]
    exact ⟨same ▸ increasing,
      fun placed isIn => Nat.lt_of_lt_of_le (below placed (same ▸ isIn)) mono⟩
  cases step with
  | subscribed opened held ticket address subscribe =>
    constructor
    · rw [subscribedIn_concat]
      exact List.pairwise_append.mpr ⟨increasing, List.pairwise_singleton _ _, fun a isIn b isNew =>
        List.mem_singleton.mp isNew ▸ below a isIn⟩
    · intro placed isIn
      rw [subscribedIn_concat] at isIn
      rcases List.mem_append.mp isIn with isOld | isNew
      · exact Nat.lt_succ_of_lt (below placed isOld)
      · rw [List.mem_singleton.mp isNew]
        exact Nat.lt_succ_self _
  | requested held ticket data request proper => exact other rfl (Nat.le_succ _)
  | _ => exact other rfl (Nat.le_refl _)

/-- What a node was subscribed to can be told from its address. -/
theorem subscribed_ext {past : List DeviceEvent} {l : Ledger} (run : Trace.Run Step start past l)
    {address : Address} {a b : DeviceSubscribe} (isA : .subscribed address a ∈ past)
    (isB : .subscribed address b ∈ past) : a = b := by
  have placed : Placed past l := run.invariant Placed ⟨.nil, fun _ isIn => by cases isIn⟩
    fun past t event t' placed step => placed.step step
  have once : ((subscribedIn past).map Prod.fst).Nodup := by
    rw [List.Nodup, List.pairwise_map]
    exact placed.increasing.imp fun less => Nat.ne_of_lt less
  exact congrArg Prod.snd (List.inj_on_of_nodup_map once
    (List.mem_filterMap.mpr ⟨_, isA, rfl⟩) (List.mem_filterMap.mpr ⟨_, isB, rfl⟩) rfl)

end Ledger

/-! ## Runs -/

/-- A subscription of the packet connection that the device asked for is one of its nodes. -/
theorem subscribed_of_connCalls {log : List DeviceEvent} {spec : ReplySpecifier}
    {result : Option FnPtr} {address : Nat}
    (isCall : .subscribe spec result address ∈ connCalls log) :
    ∃ subscribe, .subscribed address subscribe ∈ log ∧ subscribe.replySpecifier = spec ∧
      result = some subscribe.updateCallback.fnPtr := by
  obtain ⟨event, isIn, isCall⟩ := List.mem_filterMap.mp isCall
  cases event with
  | subscribed address subscribe =>
    cases isCall
    exact ⟨subscribe, isIn, rfl, rfl⟩
  | _ => cases isCall

/-- Where the arguments of an update come from: a data frame was read, it holds a packet that the
subscription is for, and its update callback reads them of this packet. -/
def UpdateReadFor (env : Env) (subscribe : DeviceSubscribe) (log : List Event)
    (args : CallbackArgs) : Prop :=
  ∃ frame ∈ dataIn log, ∃ packet, frame.ReadAs env (some packet) ∧
    replySpecifierMatches subscribe.replySpecifier packet = true ∧
    subscribe.updateCallback.read packet = some (some args)

namespace DeviceConn

variable {env : Env} {deviceEnv : DeviceEnv} {x : DeviceConn}

theorem run_notices {calls : List Call} {fconn : FrameConn} {host : Host}
    (ran : (start fconn host).run env deviceEnv calls = some x) : x.conn.Notices x.Asked :=
  run_walk ran (walk_notices env x.Asked) (notices_start x.Asked fconn host)

/-- **Updates are read off the wire.** In every run, what the callback of a subscription is called
with was read for it: user code passed this callback and this user data to an operation that the
reported functions allow, and the arguments are what the operation's own callback reads of a packet
in a data frame that was read, and that the operation subscribes to. -/
theorem update_read {calls : List Call} {fconn : FrameConn} {host : Host}
    (ran : (start fconn host).run env deviceEnv calls = some x) {fn : FnPtr} {args : CallbackArgs}
    {userData : Nat} (isUpdate : .updated fn args userData ∈ x.device.log) :
    ∃ (operation : SubscribeOperation) (packets : List Packet) (subscribe : DeviceSubscribe),
      CalledIn deviceEnv calls (.subscribe operation (some fn) userData) ∧
      (∀ packet ∈ packets, ∃ frame ∈ dataIn x.conn.log, frame.ReadAs env (some packet)) ∧
      operation.subscribe (supportedBy packets) = some subscribe ∧
      UpdateReadFor env subscribe x.conn.log args := by
  obtain ⟨reached, sourced⟩ := run_sourced ran
  obtain ⟨asked, runs, -, -⟩ := run_conn (reached_start env fconn host) ran
  have decoded {packet : Packet} (isParsed : packet ∈ parsedIn x.conn.log) :
      ∃ frame ∈ dataIn x.conn.log, frame.ReadAs env (some packet) :=
    (run_digested runs).decoded isParsed
  obtain ⟨front, back, split⟩ := List.append_of_mem isUpdate
  obtain ⟨node, made, isFn, rfl, subscription, packet, update, isTold, isAddress, isUpdate, reads⟩ :=
    sourced.record front _ back split
  obtain ⟨operation, -, subscribe, isCalled, ⟨packets, areParsed, rfl⟩, opens, isNode⟩ := made
  rw [isFn] at isCalled
  have isNode : .subscribed node.address subscribe ∈ x.device.log :=
    split ▸ List.mem_append_left _ isNode
  -- The packet connection was told the specifier and the callback with the same address.
  obtain ⟨⟨k, begun, madeFor⟩, wants, read⟩ := (run_notices ran).told _ isTold
  obtain ⟨other, isOther, specifier, result⟩ := subscribed_of_connCalls (madeFor begun)
  rw [isAddress] at isOther
  obtain rfl := Ledger.subscribed_ext reached.coupled.kept isNode isOther
  rw [result, Option.bind_some, UpdateCallback.ofFnPtr_fnPtr] at isUpdate
  cases isUpdate
  obtain ⟨frame, isData, readAs⟩ := decoded read
  refine ⟨operation, packets, subscribe, isCalled, fun packet isIn => decoded (areParsed packet isIn),
    opens, frame, isData, packet, readAs, ?_, reads⟩
  rw [specifier]
  exact (Bool.and_eq_true_iff.mp wants).1

/-- `update_read` on headphones that report a battery and then its level. -/
theorem update_read_battery :
    let process : Call := .process ⟨0, 0⟩ true true
    let deviceEnv : DeviceEnv := { DeviceEnv.idle with subscribed := fun _ => some 2 }
    let calls : List Call := [.user (.request .init .both), process, process, process, process,
      .user (.subscribe .batteryLevel (some 5) 9), process]
    ∃ x, (start .fresh (.listing
        [.data [0x3e, 1, 1, 0, 0, 0, 0, 2, 0x3c],
          .data [0x3e, 12, 0, 0, 0, 0, 4, 1, 0, 1, 2, 20, 0x3c],
          .data [0x3e, 1, 0, 0, 0, 0, 0, 1, 0x3c],
          .data [0x3e, 12, 1, 0, 0, 0, 4, 7, 0, 1, 0x11, 42, 0x3c],
          .data [0x3e, 12, 0, 0, 0, 0, 4, 0x13, 0, 10, 0, 45, 0x3c]]
        [.wrote 100, .wrote 100, .wrote 100, .wrote 100, .wrote 100])).run initEnv deviceEnv calls =
          some x ∧
      .updated 5 (.battery 10 0) 9 ∈ x.device.log ∧
      ∃ (operation : SubscribeOperation) (packets : List Packet) (subscribe : DeviceSubscribe),
        CalledIn deviceEnv calls (.subscribe operation (some 5) 9) ∧
        (∀ packet ∈ packets, ∃ frame ∈ dataIn x.conn.log, frame.ReadAs initEnv (some packet)) ∧
        operation.subscribe (supportedBy packets) = some subscribe ∧
        UpdateReadFor initEnv subscribe x.conn.log (.battery 10 0) := by
  intro process deviceEnv calls
  obtain ⟨x, ran, shown⟩ := (Option.any_eq_true _ _).mp (show ((start .fresh (.listing
        [.data [0x3e, 1, 1, 0, 0, 0, 0, 2, 0x3c],
          .data [0x3e, 12, 0, 0, 0, 0, 4, 1, 0, 1, 2, 20, 0x3c],
          .data [0x3e, 1, 0, 0, 0, 0, 0, 1, 0x3c],
          .data [0x3e, 12, 1, 0, 0, 0, 4, 7, 0, 1, 0x11, 42, 0x3c],
          .data [0x3e, 12, 0, 0, 0, 0, 4, 0x13, 0, 10, 0, 45, 0x3c]]
        [.wrote 100, .wrote 100, .wrote 100, .wrote 100, .wrote 100])).run initEnv deviceEnv
          calls).any (fun x => .updated 5 (.battery 10 0) 9 ∈ x.device.log) = true
      by decide +kernel)
  have isUpdate := of_decide_eq_true shown
  exact ⟨x, ran, isUpdate, update_read ran isUpdate⟩

end DeviceConn

end Libmdr
