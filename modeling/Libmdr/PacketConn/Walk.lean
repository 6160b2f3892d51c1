import Libmdr.PacketConn.Clock
import Libmdr.PacketConn.Dispatch
import Libmdr.PacketConn.Scripted
import Libmdr.PacketConn.SocketCalls

/-!
# A rule for runs

A relation between states holds between the ends of every run when it holds around each thing
that the functions of the packet connection do: a call by user code, an entry of the record,
a packet that a subscription is told, a flush, a frame that is written and recorded, a frame
that is read, a packet that is parsed, and the changes of fields in between. The functions are
walked through once, here.
-/

namespace Libmdr
set_option autoImplicit false

/-- A data frame: the ACK is written, and the packet is read. -/
theorem receiveData_cases {env : Env} {frame : Frame} {s t : State} {result : Int}
    (run : receiveData env frame s = some (result, t)) :
    ∃ written fconn host packet host',
      s.conn.fconn.writeFrame env.heap s.host (ackFrame frame) = some (written, fconn, host) ∧
      Packet.fromFrame env.heap frame host = some (packet, host') ∧
      (packet = none ∧ result = -1 ∧
          t = { (s.afterRead fconn host).record [.wroteAck (ackFrame frame) written] with
                host := host' } ∨
        ∃ read, packet = some read ∧ result = 0 ∧ receivePacket env read
          { (s.afterRead fconn host).record [.wroteAck (ackFrame frame) written] with
            host := host' } = some t) := by
  simp only [receiveData, Option.bind_eq_bind, Option.bind_eq_some_iff] at run
  obtain ⟨⟨written, fconn, host⟩, wrote, ⟨packet, host'⟩, parsed, run⟩ := run
  refine ⟨written, fconn, host, packet, host', wrote, parsed, ?_⟩
  cases packet with
  | none =>
    cases run
    exact .inl ⟨rfl, rfl, rfl⟩
  | some packet =>
    simp only [Option.bind_eq_some_iff] at run
    obtain ⟨u, received, run⟩ := run
    cases run
    exact .inr ⟨packet, rfl, rfl, received⟩

/-- The packets that were acted on. -/
def parsedIn (events : List Event) : List Packet :=
  events.filterMap fun
    | .parsed packet _ => some packet
    | _ => none

theorem parsedIn_append (xs ys : List Event) : parsedIn (xs ++ ys) = parsedIn xs ++ parsedIn ys :=
  List.filterMap_append

theorem parsedIn_accepted (new : List Request) : parsedIn (new.map .accepted) = [] :=
  (List.filterMap_map ..).trans (List.filterMap_eq_nil_iff.mpr fun _ _ => rfl)

/-- A subscription is told a packet that it wants, and else nothing happens. -/
theorem notify_cases {env : Env} {packet : Packet} {node : Subscription} {s t : State}
    (run : notify env packet node s = some t) :
    t = s ∨ node.Wants packet = true ∧ runCallback env (.notified node packet) s = some t := by
  unfold notify at run
  unfold Subscription.Wants
  split at run
  · rename_i isMatch
    split at run
    · rename_i isSet
      exact .inr ⟨by rw [isMatch, isSet]; rfl, run⟩
    · exact .inl (Option.some.inj run).symm
  · exact .inl (Option.some.inj run).symm

/-- A subscription is told a packet that was acted on before. -/
theorem notify_parsed {env : Env} {packet : Packet} {node : Subscription} {s t : State}
    (run : notify env packet node s = some t) : parsedIn t.log = parsedIn s.log := by
  obtain rfl | ⟨-, called⟩ := notify_cases run
  · rfl
  · obtain ⟨new, added⟩ := runCallback_added called
    rw [added.log, State.record_log, parsedIn_append, parsedIn_append, parsedIn_accepted,
      List.append_nil]
    exact List.append_nil _

/-- The events that accept no request, hand over no frame, and neither read nor pass on a frame or a
packet. -/
def Event.IsPlain : Event → Bool
  | .accepted _ | .wrote _ _ _ | .wroteAck _ _ | .received _ _ _ | .parsed _ _
  | .notified _ _ => false
  | _ => true

/-- The frame of a recorded call of `mdr_frameconn_write_frame`, and what the call returned. -/
def Event.attempt : Event → Option (Frame × Int)
  | .wrote request result _ => some (request.frame, result)
  | .wroteAck frame result => some (frame, result)
  | _ => none

/-- A relation that holds around what happens without the socket. `asked k` holds of the calls that
user code makes when `k` callbacks have begun. -/
structure QuietWalk (env : Env) (asked : Nat → UserCall → Prop) (related : State → State → Prop) :
    Prop where
  refl : ∀ s, related s s
  trans : ∀ {s t u}, related s t → related t u → related s u
  user : ∀ {s t c}, asked s.calls c → userCall env s c = some t → related s t
  record : ∀ s {event : Event}, event.IsPlain = true → related s (s.record [event])
  /-- A subscription in the list is told the packet that was acted on last, which it wants. -/
  notify : ∀ {s : State} {node packet}, node ∈ s.conn.subscriptions →
    node.Wants packet = true → (parsedIn s.log).getLast? = some packet →
    related s (s.record [.notified node packet])
  /-- Fields of the queue and errno change, and callbacks begin. -/
  fields : ∀ {s t : State}, t.conn.fconn = s.conn.fconn →
    t.conn.subscriptions = s.conn.subscriptions →
    t.host = { s.host with errno := t.host.errno } → t.log = s.log → s.calls ≤ t.calls →
    related s t

/-- A relation that holds around each thing that happens in a run. -/
structure Walk (env : Env) (asked : Nat → UserCall → Prop) (related : State → State → Prop) : Prop
    extends QuietWalk env asked related where
  flush : ∀ {s result fconn host}, s.conn.fconn.flushWrite s.host = some (result, fconn, host) →
    related s (s.afterRead fconn host)
  write : ∀ {s frame result fconn host event},
    s.conn.fconn.writeFrame env.heap s.host frame = some (result, fconn, host) →
    event.attempt = some (frame, result) → related s ((s.afterRead fconn host).record [event])
  /-- A frame that is read is recorded. -/
  read : ∀ {s frame fconn host head now},
    s.conn.fconn.readFrame s.host = some (frame, fconn, host) →
    related s ((s.afterRead fconn host).record
      (frame.map fun frame => Event.received frame head now).toList)
  /-- A packet that is read is recorded. -/
  parse : ∀ {s frame packet host head},
    Packet.fromFrame env.heap frame s.host = some (packet, host) →
    related s ({ s with host }.record
      (packet.map fun packet => Event.parsed packet head).toList)

namespace QuietWalk

variable {env : Env} {asked : Nat → UserCall → Prop} {related : State → State → Prop}
  (walk : QuietWalk env asked related) (scripted : ∀ k, ∀ c ∈ env.script k, asked (k + 1) c)
  {now : Timespec} {s t : State}

include walk

/-- Two entries of the record that tell nothing about frames. -/
theorem record₂ (s : State) {first second : Event} (plain : first.IsPlain = true)
    (plain' : second.IsPlain = true) : related s (s.record [first, second]) := by
  have both := walk.trans (walk.record s plain) (walk.record _ plain')
  rwa [State.record, State.record_log, List.append_assoc] at both

include scripted

/-- The calls of one callback are asked of the same number: none begins in between. -/
theorem runCallback {event : Event} (recorded : related s (s.record [event]))
    (run : Libmdr.runCallback env event s = some t) : related s t := by
  have counted : related (s.record [event]) { s.record [event] with calls := s.calls + 1 } :=
    walk.fields rfl rfl rfl rfl (Nat.le_succ _)
  refine walk.trans recorded (walk.trans counted ?_)
  -- In between no other callback begins.
  refine (Trace.foldlM_related
    (fun u v => u.calls = s.calls + 1 → v.calls = s.calls + 1 ∧ related u v)
    (fun u now => ⟨now, walk.refl u⟩) ?_ ?_ run rfl).2
  · intro u v w front back now
    obtain ⟨later, front⟩ := front now
    obtain ⟨last, back⟩ := back later
    exact ⟨last, walk.trans front back⟩
  · intro u c v isIn called now
    obtain ⟨-, -, calls, -⟩ := userCall_asked called
    refine ⟨calls.trans now, walk.user ?_ called⟩
    rw [now]
    exact scripted _ c isIn

theorem callResult {request : Request} {packet : Option Packet}
    (run : Libmdr.callResult env request packet s = some t) : related s t := by
  unfold Libmdr.callResult at run
  split at run
  · cases run
    exact walk.refl _
  · exact walk.runCallback scripted (walk.record s rfl) run

/-- errno changes, and then the callback runs. -/
theorem callError {request : Request} {e : Errno}
    (run : Libmdr.callError env request e s = some t) : related s t := by
  unfold Libmdr.callError at run
  split at run
  · cases run
    exact walk.refl _
  · have sets : related s { s with host := { s.host with errno := e } } :=
      walk.fields rfl rfl rfl rfl (Nat.le_refl _)
    exact walk.trans sets (walk.runCallback scripted (walk.record _ rfl) run)

/-- A request is given up: two entries, a callback, and changes of the queue around them. -/
theorem giveUp {head : Request} (run : Libmdr.giveUp env now head s = some t) : related s t := by
  simp only [Libmdr.giveUp, Option.bind_eq_bind, Option.bind_eq_some_iff] at run
  obtain ⟨u, called, run⟩ := run
  cases run
  have ends : related s (s.record [.expired now, .finished head
      (if head.acked then .noReply else .noAck)]) := walk.record₂ s rfl rfl
  refine walk.trans ends (walk.trans ?_ (walk.trans (walk.callError scripted called)
    (walk.fields rfl rfl rfl rfl (Nat.le_refl _))))
  split
  · exact walk.refl _
  · exact walk.fields rfl rfl rfl rfl (Nat.le_refl _)

theorem receiveAck {frame : Frame} (run : Libmdr.receiveAck env now frame s = some t) :
    related s t := by
  unfold Libmdr.receiveAck at run
  split at run
  · cases run
    exact walk.refl _
  · rename_i head rest first
    split at run
    · split at run
      · have ends : related s (s.record [.finished head (.ack frame)]).advanceFrameQueue :=
          walk.trans (walk.record s rfl) (walk.fields rfl rfl rfl rfl (Nat.le_refl _))
        exact walk.trans ends (walk.callResult scripted run)
      · cases run
        exact walk.trans (walk.record s rfl) (walk.fields rfl rfl rfl rfl (Nat.le_refl _))
    · cases run
      exact walk.refl _

/-- All subscriptions are told the packet that was acted on last. The induction is on the rounds. -/
theorem dispatch {packet : Packet} {rounds : Nat} {handle : Option Handle}
    (last : (parsedIn s.log).getLast? = some packet)
    (run : Libmdr.dispatch env packet rounds handle s = some t) : related s t := by
  induction rounds generalizing handle s with
  | zero =>
    cases handle with
    | none =>
      cases run
      exact walk.refl _
    | some handle => cases run
  | succ rounds ih =>
    cases handle with
    | none =>
      cases run
      exact walk.refl _
    | some handle =>
      simp only [Libmdr.dispatch, Option.bind_eq_bind, Option.bind_eq_some_iff] at run
      obtain ⟨node, found, u, notified, next, -, run⟩ := run
      have isNode := List.mem_of_find?_eq_some found
      obtain rfl | ⟨wants, called⟩ := notify_cases notified
      · exact ih last run
      · refine walk.trans (walk.runCallback scripted (walk.notify isNode wants last) called) (ih ?_ run)
        rwa [notify_parsed notified]

/-- The relation starts behind the entry of the packet, which belongs to `Walk.parse`. -/
theorem receivePacket {packet : Packet} (run : Libmdr.receivePacket env packet s = some t) :
    related (s.record [.parsed packet s.conn.queue.requests.head?]) t := by
  have last : (parsedIn (s.record [.parsed packet s.conn.queue.requests.head?]).log).getLast? =
      some packet := by
    rw [State.record_log, parsedIn_append]
    exact List.getLast?_concat
  unfold Libmdr.receivePacket at run
  dsimp only at run
  split at run
  · exact walk.dispatch scripted last run
  · rename_i head rest first
    split at run
    · have ends : related (s.record [.parsed packet s.conn.queue.requests.head?])
          ((s.record [.parsed packet s.conn.queue.requests.head?]).record
            [.finished head (.reply packet)]).advanceFrameQueue :=
        walk.trans (walk.record _ rfl) (walk.fields rfl rfl rfl rfl (Nat.le_refl _))
      exact walk.trans ends (walk.callResult scripted run)
    · exact walk.dispatch scripted last run

end QuietWalk

namespace Walk

variable {env : Env} {asked : Nat → UserCall → Prop} {related : State → State → Prop}
  (walk : Walk env asked related) (scripted : ∀ k, ∀ c ∈ env.script k, asked (k + 1) c)
  {now : Timespec} {s t : State} {result : Int}

include walk

theorem flushPart {writable : Bool} (run : Libmdr.flushPart writable s = some (result, t)) :
    related s t := by
  obtain ⟨-, -, rfl⟩ | ⟨flushed, fconn, host, -, flush, rfl, -⟩ := flushPart_cases run
  · exact walk.refl _
  · exact walk.flush flush

/-- The frame and its entry in the record are one step. -/
theorem transmit {head : Request} (run : Libmdr.transmit env now head s = some (result, t)) :
    related s t := by
  obtain ⟨written, fconn, host, wrote, -, rfl⟩ := transmit_cases run
  have written : related s ((s.afterRead fconn host).record [.wrote head written now]) :=
    walk.write wrote rfl
  split
  · exact written
  · exact walk.trans written (walk.fields rfl rfl rfl rfl (Nat.le_refl _))

include scripted

theorem sendPart {writable : Bool} (run : Libmdr.sendPart env now writable s = some (result, t)) :
    related s t := by
  obtain ⟨head, rest, -, -, call⟩ | ⟨-, -, rfl | ⟨head, rest, -, -, -, -, given⟩⟩ :=
    sendPart_cases run
  · exact walk.transmit call
  · exact walk.refl _
  · exact walk.toQuietWalk.giveUp scripted given

/-- The ACK, then the packet, and then what it is for. -/
theorem receiveData {frame : Frame} (run : Libmdr.receiveData env frame s = some (result, t)) :
    related s t := by
  obtain ⟨written, fconn, host, packet, host', wrote, parsed, run⟩ := receiveData_cases run
  have acknowledged : related s ((s.afterRead fconn host).record
      [.wroteAck (ackFrame frame) written]) := walk.write wrote rfl
  have read : related s _ :=
    walk.trans acknowledged (@Walk.parse _ _ _ walk _ _ _ _ s.conn.queue.requests.head? parsed)
  obtain ⟨rfl, -, rfl⟩ | ⟨packet, rfl, -, received⟩ := run
  · exact walk.trans read (walk.fields rfl rfl rfl (List.append_nil _).symm (Nat.le_refl _))
  · exact walk.trans read (walk.toQuietWalk.receivePacket scripted received)

/-- The relation starts behind the entry of the frame, which belongs to `Walk.read`. -/
theorem receiveFrame {frame : Frame}
    (run : Libmdr.receiveFrame env now frame s = some (result, t)) :
    related (s.record [.received frame s.conn.queue.requests.head? now]) t := by
  unfold Libmdr.receiveFrame at run
  dsimp only at run
  split at run
  · simp only [Option.bind_eq_bind, Option.bind_eq_some_iff] at run
    obtain ⟨u, acked, run⟩ := run
    cases run
    exact walk.toQuietWalk.receiveAck scripted acked
  · split at run
    · exact walk.receiveData scripted run
    · cases run
      exact walk.refl _

theorem receivePart (run : Libmdr.receivePart env now s = some (result, t)) : related s t := by
  unfold Libmdr.receivePart at run
  split at run
  · cases run
  · rename_i read
    cases run
    have nothing := @Walk.read _ _ _ walk _ _ _ _ none now read
    exact walk.trans nothing (walk.fields rfl rfl rfl (List.append_nil _).symm (Nat.le_refl _))
  · rename_i read
    exact walk.trans (walk.read read) (walk.receiveFrame scripted run)

/-- The rule for a call of `process`. -/
theorem process {readable writable : Bool}
    (run : Libmdr.process env now readable writable s = some (result, t)) : related s t :=
  process_related related (fun _ _ _ => walk.trans) (fun _ _ _ => walk.flushPart)
    (fun _ _ _ => walk.sendPart scripted) (fun _ _ _ => walk.receivePart scripted) run

/-- **The rule for runs.** `asked` holds of what user code calls, in callbacks and in between. -/
theorem run {calls : List Call} (called : ∀ c, .user c ∈ calls → ∀ k, asked k c)
    (finished : Libmdr.run env calls s = some t) : related s t := by
  refine Trace.foldlM_related related walk.refl (fun _ _ _ => walk.trans) ?_ finished
  intro s c t isIn call
  cases c with
  | user c => exact walk.user (called c isIn _) call
  | process now readable writable =>
    obtain ⟨⟨result, u⟩, processed, rfl⟩ := Option.map_eq_some_iff.mp call
    exact walk.process scripted processed

end Walk

end Libmdr
