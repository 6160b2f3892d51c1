import Libmdr.Device.Liveness
import Libmdr.Device.Settings

/-!
# What operations ask for arrives

An operation makes a packet, the packet connection a frame of it, and copies of the frame go out
in pieces. A peer that puts the bytes together again and decodes them has the packets of the
operations, in the order in which these made their requests.
-/

namespace Libmdr
set_option autoImplicit false

/-! ## The requests of a device -/

def DeviceEvent.made? : DeviceEvent → Option (CallbackData × DeviceRequest)
  | .requested data request => some (data, request)
  | _ => none

/-- The requests that a device makes, and the records with which it makes them. -/
def requestsIn (events : List DeviceEvent) : List (CallbackData × DeviceRequest) :=
  events.filterMap DeviceEvent.made?

/-- What the packet connection is asked for with a request, less the packet. -/
def DeviceRequest.asked (request : DeviceRequest) (data : CallbackData) :
    ReplySpecifier × Callbacks :=
  (request.replySpecifier,
    { result := some request.resultCallback.fnPtr, error := some errorCallbackPassthroughPtr,
      userData := data.address })

theorem mem_requestsIn {log : List DeviceEvent} {data : CallbackData} {request : DeviceRequest} :
    (data, request) ∈ requestsIn log ↔ .requested data request ∈ log := by
  constructor
  · intro isIn
    obtain ⟨event, isEvent, isMade⟩ := List.mem_filterMap.mp isIn
    cases event with
    | requested data request =>
      cases isMade
      exact isEvent
    | _ => cases isMade
  · exact fun isEvent => List.mem_filterMap.mpr ⟨_, isEvent, rfl⟩

theorem askedIn_eq (log : List DeviceEvent) :
    askedIn log = (requestsIn log).map fun made => made.2.asked made.1 := by
  rw [askedIn, connCalls, requestsIn, List.filterMap_filterMap, List.map_filterMap]
  refine List.filterMap_congr fun event _ => ?_
  cases event <;> rfl

theorem map_requestsIn (log : List DeviceEvent) :
    (requestsIn log).map Prod.fst = recordsIn log := by
  rw [requestsIn, recordsIn, List.map_filterMap]
  refine List.filterMap_congr fun event _ => ?_
  cases event <;> rfl

/-- Requests are told apart by the addresses of their records. -/
theorem Ledger.Sound.made_ext {log : List DeviceEvent} {l : Ledger} (sound : Ledger.Sound log l)
    {a b : CallbackData × DeviceRequest} (isA : a ∈ requestsIn log) (isB : b ∈ requestsIn log)
    (same : a.1.address = b.1.address) : a = b := by
  have nodup := sound.addresses_nodup
  rw [← map_requestsIn, List.map_map] at nodup
  exact List.inj_on_of_nodup_map nodup isA isB same

/-! ## The format spoils no request but one -/

/-- The packets that headphones are sent, and do not send. -/
def PacketType.IsAsking : PacketType → Prop
  | .connectGetProtocolInfo | .connectGetDeviceInfo | .connectGetSupportFunction
  | .commonGetBatteryLevel | .commonSetPowerOff | .commonGetConnectionStatus
  | .eqebbGetCapability | .eqebbGetParam | .eqebbSetParam | .ncasmGetParam | .ncasmSetParam
  | .playGetParam | .playSetParam | .systemGetCapability | .systemGetParam
  | .systemSetParam => True
  | _ => False

theorem Packet.not_isSmartTalkingCapability_of_isAsking {packet : Packet}
    (isAsking : packet.type.IsAsking) : ¬ packet.IsSmartTalkingCapability := by
  cases packet with
  | systemRetCapability => exact absurd isAsking id
  | _ => exact id

/-- What an operation asks for is well formed when its arrays are as long as their counts say. -/
theorem Operation.Makes.spared {operation : Operation} {request : DeviceRequest}
    (makes : operation.Makes request) (counts : operation.CountsMatch) :
    request.packet.CountsMatch ∧ request.packet.FixedValue ∧ request.packet.StringsFit ∧
      request.packet.type.IsAsking := by
  rcases makes with ⟨supported, asks⟩ | ⟨rfl, rfl⟩
  · cases operation with
    | init =>
      cases asks
      exact ⟨trivial, rfl, trivial, trivial⟩
    | getModelName | getFwVersion | getSeriesAndColor =>
      cases asks
      exact ⟨trivial, trivial, trivial, trivial⟩
    | disableNcasm | enableNoiseCancelling | enableAmbientSoundMode =>
      obtain ⟨-, asks⟩ := Option.ite_none_right_eq_some.mp asks
      split at asks <;> cases asks <;> exact ⟨trivial, trivial, trivial, trivial⟩
    | getEqCapabilities | getEqPresetAndLevels =>
      obtain ⟨-, ⟨⟩⟩ := Option.ite_none_left_eq_some.mp asks
      exact ⟨trivial, trivial, trivial, trivial⟩
    | setEqPreset =>
      obtain ⟨-, ⟨⟩⟩ := Option.ite_none_right_eq_some.mp asks
      refine ⟨?_, trivial, trivial, trivial⟩
      cases isSpecial : supported.eqNonCustomizable <;> exact rfl
    | setEqLevels | settingSetActiveButtonPresets =>
      obtain ⟨-, ⟨⟩⟩ := Option.ite_none_right_eq_some.mp asks
      exact ⟨counts, trivial, trivial, trivial⟩
    | _ =>
      obtain ⟨-, ⟨⟩⟩ := Option.ite_none_right_eq_some.mp asks
      exact ⟨trivial, trivial, trivial, trivial⟩
  · exact ⟨trivial, rfl, trivial, trivial⟩

/-- Only an amount of ambient sound gets lost. -/
theorem Operation.Makes.lossless {operation : Operation} {request : DeviceRequest}
    (makes : operation.Makes request) (counts : operation.CountsMatch)
    (keeps : ¬ request.packet.LosesAmount) :
    request.packet.WellFormed ∧ request.packet.Lossless := by
  obtain ⟨counted, fixed, fits, isAsking⟩ := makes.spared counts
  exact ⟨⟨counted, fixed⟩, fits, Packet.not_isBatteryLevel_of isAsking id id,
    Packet.not_isSmartTalkingCapability_of_isAsking isAsking, keeps⟩

/-! ## Runs -/

/-- A number for each, beside what it is paired with. -/
theorem exists_counted {α β : Type} {related : α → β → Prop} {xs : List α} {ys : List β}
    (count : α → Nat) (paired : List.Forall₂ related xs ys) :
    ∃ zs : List (β × Nat), zs.map Prod.fst = ys ∧
      List.Forall₂ (fun x z => related x z.1 ∧ z.2 = count x) xs zs := by
  induction paired with
  | nil => exact ⟨[], rfl, .nil⟩
  | @cons x y _ _ first _ ih =>
    obtain ⟨zs, same, later⟩ := ih
    exact ⟨(y, count x) :: zs, congrArg (y :: ·) same, .cons ⟨first, rfl⟩ later⟩

namespace DeviceConn

variable {env : Env} {deviceEnv : DeviceEnv} {x : DeviceConn}

/-- A request that the packet connection accepted was made for the packet that the device asks for
with the same record. -/
theorem Reached.madeFor (reached : x.Reached env) {accepted : Request} {packet : Packet}
    (madeFor : accepted.MadeFor env (· ∈ connCalls x.device.log) packet)
    {made : CallbackData × DeviceRequest} (isMade : made ∈ requestsIn x.device.log)
    (same : accepted.asked = made.2.asked made.1) :
    accepted.MadeFor env (· ∈ connCalls x.device.log) made.2.packet := by
  obtain ⟨isAsked, encoded⟩ := madeFor
  have isAsked' := isAsked
  obtain ⟨event, isEvent, isCall⟩ := List.mem_filterMap.mp isAsked
  cases event with
  | requested data request =>
    obtain ⟨rfl, -, callbacks⟩ := UserCall.makeRequest.inj (Option.some.inj isCall)
    have isAddress : data.address = made.1.address :=
      (congrArg Callbacks.userData callbacks).trans
        (congrArg Callbacks.userData (Prod.mk.inj same).2)
    rw [← (Ledger.sound reached.coupled.kept).made_ext (mem_requestsIn.mpr isEvent) isMade isAddress]
    exact ⟨isAsked', encoded⟩
  | _ => cases isCall

/-- The requests that were accepted, among those that the device made. -/
theorem Reached.accepts (reached : x.Reached env) :
    ∃ made, made.Sublist (requestsIn x.device.log) ∧
      (env.heap.NeverFails → made = requestsIn x.device.log) ∧
      List.Forall₂ (fun (accepted : Request) (request : CallbackData × DeviceRequest) =>
          request ∈ requestsIn x.device.log ∧ accepted.asked = request.2.asked request.1)
        (acceptedIn x.conn.log) made := by
  have asked := reached.coupled.asked
  rw [askedIn_eq] at asked
  obtain ⟨made, isSublist, same⟩ := List.sublist_map_iff.mp asked.sublist
  refine ⟨made, isSublist, fun never => isSublist.eq_of_length ?_, ?_⟩
  · have length := congrArg List.length (same.symm.trans (asked.all never))
    rwa [List.length_map, List.length_map] at length
  · have paired : List.Forall₂ (fun (asked : ReplySpecifier × Callbacks)
        (request : CallbackData × DeviceRequest) =>
          request ∈ requestsIn x.device.log ∧ asked = request.2.asked request.1)
        ((acceptedIn x.conn.log).map Request.asked) made := by
      rw [same, List.forall₂_map_left_iff]
      exact List.forall₂_same.mpr fun _ isIn => ⟨isSublist.subset isIn, rfl⟩
    exact List.forall₂_map_left_iff.mp paired

/-- The copies of what an operation asked for, and how many there are. -/
structure Carried (x : DeviceConn) (accepted : Request)
    (sent : (CallbackData × DeviceRequest) × Nat) : Prop where
  asked : accepted.asked = sent.1.2.asked sent.1.1
  made : ∃ operation callbacks, .started sent.1.1.ticket operation callbacks ∈ x.device.log ∧
    operation.Makes sent.1.2
  count : sent.2 = (transmissions x.conn.log accepted.handle).length
  few : sent.2 ≤ packetMaxTries

/-- **What operations ask for arrives.** In a run that leaves the write buffer empty, whatever
becomes of the calls of `write`, whatever is read, and whatever user code does in callbacks: a peer
that de-frames the bytes on the wire, cut into chunks in any way, and has memory to decode the data
frames gets the packets of the requests that operations made and the packet connection accepted, in
the order in which they were made, each once for each write that returned 0 and no more than three
times. With memory for the packet connection these are all requests that were made. Arrays are as
long as their counts say, and no amount of ambient sound is one that the encoder does not write. -/
theorem operations_arrive {calls : List Call} {fconn : FrameConn} {host peer : Host}
    {chunks : List (List UInt8)} (ran : (start fconn host).run env deviceEnv calls = some x)
    (unsent : host.wire = []) (drained : x.conn.conn.fconn.writeBuf = [])
    (cut : chunks.flatten = x.conn.host.wire) (reads : peer.reads = Host.chunked chunks)
    (counts : ∀ ticket operation callbacks,
      .started ticket operation callbacks ∈ x.device.log → operation.CountsMatch)
    (keeps : ∀ data request, .requested data request ∈ x.device.log →
      ¬ request.packet.LosesAmount) :
    ∃ frames c h, FrameConn.readAll .fresh peer = some (frames, c, h) ∧
      ∃ sent : List ((CallbackData × DeviceRequest) × Nat),
        (sent.map Prod.fst).Sublist (requestsIn x.device.log) ∧
        (env.heap.NeverFails → sent.map Prod.fst = requestsIn x.device.log) ∧
        List.Forall₂ x.Carried (acceptedIn x.conn.log) sent ∧
        List.Forall₂ Frame.DecodesTo
          (frames.filter fun frame => frame.dataType = frameDataTypeDataMdr)
          (sent.flatMap fun s => List.replicate s.2 s.1.2.packet) := by
  obtain ⟨reached, sourced⟩ := run_sourced ran
  obtain ⟨asked, ranConn, -, -⟩ := run_conn (reached_start env fconn host) ran
  obtain ⟨pieces, wire, gave, wellFormed⟩ := run_pieces ranConn unsent drained
  obtain ⟨c, h, read⟩ := FrameConn.readAll_of_attempts gave wellFormed (cut.trans wire) reads
  obtain ⟨made, isSublist, all, paired⟩ := reached.accepts
  obtain ⟨sent, rfl, counted⟩ :=
    exists_counted (fun a => (transmissions x.conn.log a.handle).length) paired
  refine ⟨_, c, h, read, sent, isSublist, all, counted.imp ?_, ?_⟩
  · rintro accepted s ⟨⟨isMade, isAsked⟩, count⟩
    exact ⟨isAsked, sourced.record.made (mem_requestsIn.mp isMade), count,
      count ▸ (run_queue_inTurn ranConn).most accepted.handle⟩
  · have copied : List.Forall₂ (fun accepted (s : Packet × Nat) =>
        s.2 = (transmissions x.conn.log accepted.handle).length ∧ ∀ request : Request,
          accepted.content = request.content → request.frame.DecodesTo s.1)
        (acceptedIn x.conn.log) (sent.map fun s => (s.1.2.packet, s.2)) := by
      rw [List.forall₂_map_right_iff]
      refine ((List.forall₂_and_left _ _).mpr ⟨fun _ isIn => isIn, counted⟩).imp ?_
      rintro accepted s ⟨isAccepted, ⟨isMade, isAsked⟩, count⟩
      refine ⟨count, fun request same => ?_⟩
      obtain ⟨operation, callbacks, isStarted, makes⟩ :=
        sourced.record.made (mem_requestsIn.mp isMade)
      obtain ⟨isWellFormed, isLossless⟩ :=
        makes.lossless (counts _ _ _ isStarted) (keeps _ _ (mem_requestsIn.mp isMade))
      obtain ⟨packet, madeFor⟩ := run_requests ran accepted isAccepted
      exact (reached.madeFor madeFor isMade isAsked).decodesTo isWellFormed isLossless same
    have copies := run_copies ranConn (FrameConn.results_of_gave gave) copied
    rwa [List.flatMap_map] at copies

/-- `operations_arrive` on a model name that is asked for twice before the reply comes, the first
time in two pieces, and a firmware version. -/
theorem operations_arrive_again :
    let process (seconds : Int) (readable : Bool) : Call := .process ⟨seconds, 0⟩ readable true
    ∃ x, (start .fresh (.listing [.data [0x3e, 1, 1, 0, 0, 0, 0, 2, 0x3c],
          .data [0x3e, 12, 0, 0, 0, 0, 5, 5, 1, 2, 0x58, 0x4d, 0xbe, 0x3c]]
        [.wrote 5, .wrote 100, .wrote 100, .wrote 100, .wrote 100])).run .idle .idle
        [.user (.request .getModelName .both), .user (.request .getFwVersion .both),
          process 0 false, process 2 false, process 2 true, process 2 true, process 2 false] =
        some x ∧
      (acceptedIn x.conn.log).map
        (fun accepted => (transmissions x.conn.log accepted.handle).length) = [2, 1] ∧
      ∃ frames c h, FrameConn.readAll .fresh (.listing (Host.chunked
          [x.conn.host.wire.take 9, x.conn.host.wire.drop 9]) []) = some (frames, c, h) ∧
        ∃ sent : List ((CallbackData × DeviceRequest) × Nat),
          (sent.map Prod.fst).Sublist (requestsIn x.device.log) ∧
          (Env.idle.heap.NeverFails → sent.map Prod.fst = requestsIn x.device.log) ∧
          List.Forall₂ x.Carried (acceptedIn x.conn.log) sent ∧
          List.Forall₂ Frame.DecodesTo
            (frames.filter fun frame => frame.dataType = frameDataTypeDataMdr)
            (sent.flatMap fun s => List.replicate s.2 s.1.2.packet) := by
  intro process
  obtain ⟨x, ran, shown⟩ := (Option.any_eq_true _ _).mp (show ((start .fresh (.listing
      [.data [0x3e, 1, 1, 0, 0, 0, 0, 2, 0x3c],
        .data [0x3e, 12, 0, 0, 0, 0, 5, 5, 1, 2, 0x58, 0x4d, 0xbe, 0x3c]]
      [.wrote 5, .wrote 100, .wrote 100, .wrote 100, .wrote 100])).run .idle .idle
      [.user (.request .getModelName .both), .user (.request .getFwVersion .both),
        process 0 false, process 2 false, process 2 true, process 2 true, process 2 false]).any
    (fun x => decide ((acceptedIn x.conn.log).map
        (fun accepted => (transmissions x.conn.log accepted.handle).length) = [2, 1] ∧
      x.conn.conn.fconn.writeBuf = [] ∧ x.device.log = [.started 0 .getModelName .both,
        .requested ⟨0, 0, .both⟩ (Device.getDeviceInfo .modelName .getModelNameResult),
        .started 1 .getFwVersion .both,
        .requested ⟨1, 1, .both⟩ (Device.getDeviceInfo .fwVersion .getFwVersionResult),
        .calledBack ⟨0, 0, .both⟩,
        .answered 0 { fn := 0, reply := .result (.string 2 [0x58, 0x4d]), userData := 7 }])) = true
    by decide +kernel)
  obtain ⟨copies, drained, log⟩ := of_decide_eq_true shown
  refine ⟨x, ran, copies, operations_arrive ran rfl drained (by simp) rfl ?_ ?_⟩
  · intro ticket operation callbacks isStarted
    rw [log] at isStarted
    simp only [List.mem_cons, List.not_mem_nil, DeviceEvent.started.injEq, reduceCtorEq, or_false,
      false_or] at isStarted
    rcases isStarted with ⟨-, rfl, -⟩ | ⟨-, rfl, -⟩ <;> trivial
  · intro data request isMade
    rw [log] at isMade
    simp only [List.mem_cons, List.not_mem_nil, DeviceEvent.requested.injEq, reduceCtorEq, or_false,
      false_or] at isMade
    rcases isMade with ⟨-, rfl⟩ | ⟨-, rfl⟩ <;> exact id

end DeviceConn

end Libmdr
