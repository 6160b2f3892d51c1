import Libmdr.FrameConn.Checksum
import Libmdr.Packet.Encoding
import Libmdr.PacketConn.Clock
import Libmdr.PacketConn.SequenceIds

/-!
# The frames of the queue

A request's frame comes from `mdr_packet_to_frame` and has room for its payload and the
checksum byte. The checksum is set when the request becomes the first one, and from then
on nothing changes the frame: so every frame that is handed to
`mdr_frameconn_write_frame` is self-consistent on the wire.
-/

namespace Libmdr
set_option autoImplicit false

/-- A frame from `mdr_packet_to_frame` has room for its payload and the checksum byte. -/
theorem Frame.Made.wellFormed {frame : Frame} (made : frame.Made) : frame.WellFormed := by
  obtain ⟨heap, packet, h, h', encoded⟩ := made
  have encodes : packet.layouts.isSome := by
    cases layouts : packet.layouts with
    | none =>
      rw [Packet.toFrame, layouts] at encoded
      cases encoded
    | some _ => rfl
  obtain ⟨again, h₁, written, runs, -, -, spec⟩ := Packet.toFrame_spec heap h encodes
  obtain ⟨rfl, -⟩ := Prod.mk.inj (Option.some.inj (runs.symm.trans encoded))
  have makes := spec frame rfl
  have small := makes.small
  exact ⟨makes.body, by omega⟩

theorem ackFrame_sealed (frame : Frame) : (ackFrame frame).Sealed := by
  apply Frame.setChecksum_sealed
  constructor
  · rfl
  · change 0 + 7 < 2 ^ 32
    decide

/-! ## One request -/

/-- What holds of every request of the queue. -/
structure Request.Sound (request : Request) : Prop where
  frame : request.frame.WellFormed
  attempts : request.attempts ≤ packetMaxTries
  acked : request.acked = true → request.expectedReply.onlyAck = false

theorem Request.Sound.of_new {request : Request} (frame : request.frame.WellFormed)
    (unsent : request.attempts = 0) (waiting : request.acked = false) : request.Sound where
  frame := frame
  attempts := by
    rw [unsent]
    exact Nat.zero_le _
  acked := by
    intro isAcked
    rw [waiting] at isAcked
    cases isAcked

/-- The frame of the first request is sealed. -/
theorem Request.assign_sealed {request : Request} (frame : request.frame.WellFormed)
    (sequenceId : UInt8) : (request.assign sequenceId).frame.Sealed :=
  Frame.setChecksum_sealed ⟨frame.body, frame.length⟩

theorem Request.Sound.assign {request : Request} (sound : request.Sound) (sequenceId : UInt8) :
    (request.assign sequenceId).Sound where
  frame := (Request.assign_sealed sound.frame sequenceId).wellFormed
  attempts := sound.attempts
  acked := sound.acked

theorem Request.Sound.sent {request : Request} (sound : request.Sound)
    (few : request.attempts < packetMaxTries) (now : Timespec) : (request.sent now).Sound where
  frame := sound.frame
  attempts := few
  acked := sound.acked

theorem Request.Sound.ackedAt {request : Request} (sound : request.Sound)
    (waits : request.expectedReply.onlyAck = false) (now : Timespec) :
    (request.ackedAt now).Sound where
  frame := sound.frame
  attempts := sound.attempts
  acked := fun _ => waits

/-! ## The queue -/

namespace RequestQueue

/-- All requests are sound, and the frame of the first one has its checksum. -/
structure Sound (q : RequestQueue) : Prop where
  all : ∀ request ∈ q.requests, request.Sound
  head : ∀ head rest, q.requests = head :: rest → head.frame.Sealed

theorem Sound.enqueue {q : RequestQueue} (sound : q.Sound) {request : Request}
    (new : request.Sound) : (q.enqueue request).Sound := by
  obtain ⟨nextSequenceId, requests⟩ := q
  cases requests with
  | nil =>
    constructor
    · intro r isIn
      rw [List.mem_singleton.mp isIn]
      exact new.assign nextSequenceId
    · intro head rest first
      cases first
      exact Request.assign_sealed new.frame nextSequenceId
  | cons old more =>
    constructor
    · intro r isIn
      rcases List.mem_append.mp isIn with early | late
      · exact sound.all r early
      · rw [List.mem_singleton.mp late]
        exact new
    · intro head rest first
      cases first
      exact sound.head old more rfl

theorem Sound.advance {q : RequestQueue} (sound : q.Sound) : q.advance.Sound := by
  obtain ⟨nextSequenceId, requests⟩ := q
  rcases requests with _ | ⟨old, _ | ⟨next, more⟩⟩
  · exact sound
  · exact ⟨(fun _ isIn => by cases isIn), (fun _ _ none => by cases none)⟩
  · have isNext : next.Sound := sound.all next (by simp)
    constructor
    · intro r isIn
      rcases List.mem_cons.mp isIn with rfl | late
      · exact isNext.assign nextSequenceId
      · exact sound.all r (by simp [late])
    · intro head rest first
      cases first
      exact Request.assign_sealed isNext.frame nextSequenceId

theorem Sound.flip {q : RequestQueue} (sound : q.Sound) : q.flip.Sound :=
  ⟨sound.all, sound.head⟩

/-- A change of the first request that keeps its frame. -/
theorem Sound.mapHead {q : RequestQueue} (sound : q.Sound) {head : Request} {rest : List Request}
    (first : q.requests = head :: rest) {f : Request → Request} (same : (f head).frame = head.frame)
    (isSound : (f head).Sound) : (q.mapHead f).Sound := by
  obtain ⟨nextSequenceId, requests⟩ := q
  subst first
  constructor
  · intro r isIn
    rcases List.mem_cons.mp isIn with rfl | late
    · exact isSound
    · exact sound.all r (List.mem_cons_of_mem _ late)
  · intro head' rest' first'
    cases first'
    rw [same]
    exact sound.head head rest rfl

end RequestQueue

/-- The queue of a new connection. -/
theorem sound_start (fconn : FrameConn) : (PacketConn.newFromFrameconn fconn).queue.Sound where
  all := fun _ isIn => by cases isIn
  head := fun _ _ none => by cases none

theorem Session.Step.sound {t t' : Session} {event : Event} (step : Session.Step t event t')
    (isOpen : t'.closing = false) (sourced : event.Sourced) (sound : t.queue.Sound) :
    t'.queue.Sound := by
  cases step with
  | owed => exact sound
  | accepted q request closing unsent waiting =>
    obtain rfl : closing = false := isOpen
    have made : request.frame.Made := sourced
    exact sound.enqueue (.of_new made.wellFormed unsent waiting)
  | wrote q head rest result now first due =>
    dsimp only
    split
    · exact sound
    · have isHead : head.Sound := sound.all head (RequestQueue.head_mem first)
      exact sound.mapHead first rfl (isHead.sent (Request.attempts_lt_of_due due) now)
  | expired q head rest now first sent late spent =>
    cases head.acked with
    | true => exact sound.advance
    | false => exact sound.flip.advance
  | ackedOnly | replied => exact sound.advance
  | ackedWaits q head rest frame now first isAck isMatch waits =>
    have isHead : head.Sound := sound.all head (RequestQueue.head_mem first)
    exact sound.mapHead first rfl (isHead.ackedAt waits now)
  | closing => cases isOpen
  | ignored | unexpected | wroteAck | notified => exact sound

/-! ## Runs -/

/-- The frame that an event hands to `mdr_frameconn_write_frame`. -/
def Event.handedOver : Event → Option Frame
  | .wrote request _ _ => some request.frame
  | .wroteAck frame _ => some frame
  | _ => none

/-- What is handed over in a step is sealed. -/
theorem Session.Step.sealed {t t' : Session} {event : Event} (step : Session.Step t event t')
    (owes : t.OwesEndings) (sourced : event.Sourced) (sound : t.queue.Sound) {frame : Frame}
    (handed : event.handedOver = some frame) : frame.Sealed := by
  cases step with
  | owed q event rest closing =>
    have isEnding := owes event List.mem_cons_self
    cases event with
    | wrote | wroteAck => cases isEnding
    | _ => cases handed
  | wrote q head rest result now first due =>
    cases handed
    exact sound.head head rest first
  | wroteAck =>
    cases handed
    obtain ⟨received, rfl⟩ := sourced
    exact ackFrame_sealed received
  | _ => cases handed

theorem sound_run {t u : Session} {events : List Event} (run : Trace.Run Session.Step t events u)
    (start : t.queue.Sound) (owes : t.OwesEndings) (isOpen : u.closing = false)
    (sourced : ∀ event ∈ events, event.Sourced) :
    u.queue.Sound ∧ ∀ event ∈ events, ∀ frame, event.handedOver = some frame → frame.Sealed := by
  have along : u.OwesEndings ∧ (u.closing = false → u.queue.Sound ∧
      ∀ event ∈ events, ∀ frame, event.handedOver = some frame → frame.Sealed) := by
    refine Trace.Run.invariant_of_forall Event.Sourced (fun past t => t.OwesEndings ∧
      (t.closing = false → t.queue.Sound ∧
        ∀ event ∈ past, ∀ frame, event.handedOver = some frame → frame.Sealed))
      ⟨owes, fun _ => ⟨start, (fun _ isIn => by cases isIn)⟩⟩ ?_ run sourced
    intro past t event t' ⟨owes, now⟩ isSourced step
    refine ⟨owes.step step, fun isOpen => ?_⟩
    obtain ⟨sound, isSealed⟩ := now (step.was_open isOpen)
    refine ⟨step.sound isOpen isSourced sound, ?_⟩
    intro event' isIn frame handed
    rcases List.mem_append.mp isIn with early | late
    · exact isSealed event' early frame handed
    · rw [List.mem_singleton.mp late] at handed
      exact step.sealed owes isSourced sound handed
  exact along.2 isOpen

/-- **Every frame on the wire is self-consistent.** In a run, the escaped form of each
frame that is handed to `mdr_frameconn_write_frame`, of a request or of an ACK, un-escapes
to bytes with the right length field, the right number, and their sum at the end; it is the
sum that `mdr_frame_compute_checksum` gives on a host of any byte order. -/
theorem run_sentConsistent {env : Env} {calls : List Call} {fconn : FrameConn} {host : Host}
    {s : State} (ran : run env calls (State.start fconn host) = some s) :
    ∀ event ∈ s.log, ∀ frame, event.handedOver = some frame →
      FrameConn.SentConsistent frame ∧
      ∀ length, length.Perm (be32 frame.payloadLength) → frame.checksum =
        some (((frame.hostBytes length).take (frame.frameLen - 1)).foldl (· + ·) 0) := by
  obtain ⟨records, recorded⟩ := run_log ran
  have owes : ((State.start fconn host).session false).OwesEndings := fun _ isIn => by cases isIn
  obtain ⟨-, handedOver⟩ := sound_run records.run (sound_start fconn) owes rfl
    recorded.sourced
  intro event isIn frame handed
  have sealed := handedOver event isIn frame handed
  refine ⟨FrameConn.sentConsistent sealed, ?_⟩
  intro length order
  rw [Frame.computeChecksum_host sealed.wellFormed order]
  exact sealed.checksum

/-- A request that is sent, and the ACK of a data frame. -/
theorem run_sentConsistent_power_off :
    ∃ s, run Env.idle [.user powerOff, .process ⟨0, 0⟩ true true] (State.start .fresh (.listing
        [.data [0x3e, 0x0c, 1, 0, 0, 0, 4, 1, 0, 1, 2, 0x15, 0x3c]] [.wrote 100, .wrote 100]))
        = some s ∧ (s.log.filterMap Event.handedOver).length = 2 ∧
      ∀ event ∈ s.log, ∀ frame, event.handedOver = some frame →
        FrameConn.SentConsistent frame ∧
        ∀ length, length.Perm (be32 frame.payloadLength) → frame.checksum =
          some (((frame.hostBytes length).take (frame.frameLen - 1)).foldl (· + ·) 0) := by
  obtain ⟨s, ran, two⟩ := (Option.any_eq_true _ _).mp (show (run Env.idle
    [.user powerOff, .process ⟨0, 0⟩ true true] (State.start .fresh (.listing
      [.data [0x3e, 0x0c, 1, 0, 0, 0, 4, 1, 0, 1, 2, 0x15, 0x3c]] [.wrote 100, .wrote 100]))).any
    (fun s => decide ((s.log.filterMap Event.handedOver).length = 2)) = true by decide +kernel)
  exact ⟨s, ran, of_decide_eq_true two, run_sentConsistent ran⟩

end Libmdr
