import Libmdr.Lib.FifoLine
import Libmdr.PacketConn.SequenceIds
import Mathlib.Logic.Relation

/-!
# A connection and its peer

The connection runs against a peer that answers each request frame it receives
with one ACK, over two channels that keep the order and may lose and delay
frames. `.wrote` puts the first request's frame into the channel, also when the
write was blocked and the frame left in the write buffer; `.received` takes the
frame that arrives from the other channel. The ACKs that the connection itself
writes are left out: the peer does nothing with them.
-/

namespace Libmdr
set_option autoImplicit false

/-! ## The channels -/

/-- A frame on its way to the connection: the ACK of a request's frame, which
carries the complement of its sequence id, or a frame that is no ACK. -/
inductive Letter
  | ack (handle : Handle) (sequenceId : UInt8) (frame : Frame)
      (isAck : frame.dataType = frameDataTypeAck)
      (complement : (frame.sequenceId.toNat : Int) = 1 - sequenceId.toNat)
  | other (frame : Frame) (notAck : frame.dataType ≠ frameDataTypeAck)

def Letter.frame : Letter → Frame
  | .ack _ _ frame _ _ => frame
  | .other frame _ => frame

/-- The request that an ACK answers, and the sequence id of its frame. -/
def Letter.answers : Letter → Option (Handle × UInt8)
  | .ack handle sequenceId _ _ _ => some (handle, sequenceId)
  | .other _ _ => none

/-- What is in flight, the oldest first. -/
structure Channels where
  toPeer : List Request
  toHost : List Letter

namespace Channels

/-- The requests in flight with the sequence ids of their frames: first those
whose ACKs are coming back. -/
def line (c : Channels) : List (Handle × UInt8) :=
  c.toHost.filterMap Letter.answers ++
    c.toPeer.map fun request => (request.handle, request.frame.sequenceId)

/-- What an event of the connection does to the channels. A frame can be received
only when it is the next one to arrive. -/
def carry (c : Channels) : Event → Option Channels
  | .wrote request _ _ => some { c with toPeer := c.toPeer ++ [request] }
  | .received frame _ _ =>
    match c.toHost with
    | [] => none
    | letter :: rest => if letter.frame = frame then some { c with toHost := rest } else none
  | _ => some c

/-- What is received was the next to arrive. -/
theorem carry_received {c c' : Channels} {frame : Frame} {head : Option Request} {now : Timespec}
    (carried : c.carry (.received frame head now) = some c') :
    ∃ letter, c.toHost = letter :: c'.toHost ∧ letter.frame = frame ∧ c'.toPeer = c.toPeer := by
  obtain ⟨toPeer, toHost⟩ := c
  simp only [carry] at carried
  split at carried
  · cases carried
  · rename_i letter rest
    split at carried
    · rename_i same
      cases carried
      exact ⟨letter, rfl, same, rfl⟩
    · cases carried

theorem carry_ending {c : Channels} {event : Event} (isEnding : event.IsEnding = true) :
    c.carry event = some c := by
  cases event <;> first | rfl | cases isEnding

theorem line_wrote (c : Channels) (request : Request) :
    { c with toPeer := c.toPeer ++ [request] }.line =
      c.line ++ [(request.handle, request.frame.sequenceId)] := by
  simp [line]

/-- A letter is taken from the front of the line, if it is an answer. -/
theorem line_received {c c' : Channels} {letter : Letter} (arrives : c.toHost = letter :: c'.toHost)
    (toPeer : c'.toPeer = c.toPeer) : c.line = letter.answers.toList ++ c'.line := by
  rw [line, line, arrives, toPeer, List.filterMap_cons]
  cases letter.answers <;> rfl

theorem line_sublist {c c' : Channels} {frame : Frame} {head : Option Request} {now : Timespec}
    (carried : c.carry (.received frame head now) = some c') : c'.line.Sublist c.line := by
  obtain ⟨letter, arrives, -, toPeer⟩ := carry_received carried
  rw [line_received arrives toPeer]
  exact List.sublist_append_right _ _

/-- No frame in flight carries the sequence id, and no ACK in flight answers it. -/
def Clear (c : Channels) (sequenceId : UInt8) : Prop :=
  ∀ message ∈ c.line, message.2 ≠ sequenceId

/-- When a request leaves the queue and no ACK for it was accepted, nothing in
flight fits the next request: that one has the same sequence id after
`MDR_E_NO_ACK`, and the other one after a reply. -/
def Settles (c : Channels) : Event → Prop
  | .finished request .noAck => c.Clear request.frame.sequenceId
  | .finished request (.reply _) =>
    request.acked = false → c.Clear (lnot request.frame.sequenceId)
  | _ => True

/-- An event of the connection between the channels before and after it. -/
def Carry (guard : Channels → Event → Prop) (c : Channels) (event : Event) (c' : Channels) : Prop :=
  guard c event ∧ c.carry event = some c'

end Channels

/-! ## The network -/

/-- The connection, the channels, and the requests whose frame the peer received. -/
structure Network where
  conn : State
  channels : Channels
  heard : List Handle

namespace Network

def start (fconn : FrameConn) (host : Host) : Network :=
  { conn := State.start fconn host, channels := { toPeer := [], toHost := [] }, heard := [] }

/-- One step; every event of the connection satisfies the guard. -/
inductive Step (env : Env) (guard : Channels → Event → Prop) : Network → Network → Prop
  /-- A call of the connection's interface. -/
  | call (n : Network) (c : Call) (conn : State) (events : List Event) (channels : Channels)
      (ran : call env n.conn c = some conn) (log : conn.log = n.conn.log ++ events)
      (carried : Trace.Run (Channels.Carry guard) n.channels events channels) :
      Step env guard n { n with conn, channels }
  /-- The peer receives a request frame and sends one ACK. -/
  | answer (n : Network) (request : Request) (rest : List Request) (ack : Frame)
      (arrives : n.channels.toPeer = request :: rest) (isAck : ack.dataType = frameDataTypeAck)
      (complement : (ack.sequenceId.toNat : Int) = 1 - request.frame.sequenceId.toNat) :
      Step env guard n
        { n with
          channels :=
            { toPeer := rest
              toHost := n.channels.toHost ++
                [.ack request.handle request.frame.sequenceId ack isAck complement] }
          heard := n.heard ++ [request.handle] }
  /-- The peer sends a frame that is no ACK. -/
  | send (n : Network) (frame : Frame) (notAck : frame.dataType ≠ frameDataTypeAck) :
      Step env guard n
        { n with
          channels := { n.channels with toHost := n.channels.toHost ++ [.other frame notAck] } }
  /-- Frames are lost. -/
  | lose (n : Network) (channels : Channels)
      (toPeer : channels.toPeer.Sublist n.channels.toPeer)
      (toHost : channels.toHost.Sublist n.channels.toHost) :
      Step env guard n { n with channels }

/-- A run of the network. -/
def Run (env : Env) (guard : Channels → Event → Prop) : Network → Network → Prop :=
  Relation.ReflTransGen (Step env guard)

end Network

/-- The request that an event marks as acknowledged, or ends because of an ACK. -/
def Event.acknowledges : Event → Option Request
  | .acked request => some request
  | .finished request (.ack _) => some request
  | _ => none

/-- Requests are acknowledged only when the peer has received their frame; in
particular the result callbacks that an ACK calls. -/
structure AcksHeard (log : List Event) (heard : List Handle) : Prop where
  acknowledged : ∀ event ∈ log, ∀ request, event.acknowledges = some request →
    request.handle ∈ heard
  called : ∀ call ∈ callsIn log, call.arg = .result none → call.handle ∈ heard

/-! ## The invariant -/

/-- What is in flight fits the first request of the queue, as soon as what is
owed has settled; the ACKs in flight and those accepted are answers. -/
structure Synchronous (past : List Event) (heard : List Handle) (t : Session) (c : Channels) :
    Prop where
  valid : t.queue.Valid
  fits : (∀ event ∈ t.owed, c.Settles event) →
    FifoLine.Fits (t.queue.requests.head?.map Request.handle) t.queue.headId c.line
  acked : (∀ event ∈ t.owed, c.Settles event) → ∀ head, t.queue.requests.head? = some head →
    head.acked = true → FifoLine.AllMarked t.queue.headId c.line
  answers : ∀ letter ∈ c.toHost, ∀ message, letter.answers = some message → message.1 ∈ heard
  acknowledged : ∀ event ∈ past ++ t.owed, ∀ request, event.acknowledges = some request →
    request.handle ∈ heard

/-- Nothing of the connection changes and the channels lose nothing that matters. -/
theorem Synchronous.of_line {past : List Event} {heard heard' : List Handle} {t : Session}
    {c c' : Channels} (synchronous : Synchronous past heard t c) (paid : t.owed = [])
    (line : c'.line.Sublist c.line) (more : ∀ handle ∈ heard, handle ∈ heard')
    (answers : ∀ letter ∈ c'.toHost, ∀ message, letter.answers = some message →
      message.1 ∈ heard') : Synchronous past heard' t c' where
  valid := synchronous.valid
  fits := fun _ => (synchronous.fits (by simp [paid])).sublist line
  acked := fun _ head isHead isAcked =>
    (synchronous.acked (by simp [paid]) head isHead isAcked).sublist line
  answers := answers
  acknowledged := fun event isIn request acknowledges =>
    more _ (synchronous.acknowledged event isIn request acknowledges)

/-- With nothing owed, what is in flight fits the first request. -/
theorem Synchronous.fitsNow {past : List Event} {heard : List Handle} {q : RequestQueue}
    {closing : Bool} {c : Channels} (synchronous : Synchronous past heard ⟨q, [], closing⟩ c) :
    FifoLine.Fits (q.requests.head?.map Request.handle) q.headId c.line :=
  synchronous.fits fun _ isIn => by cases isIn

/-- With nothing owed and the first request acknowledged, all of it is of that request. -/
theorem Synchronous.marked {past : List Event} {heard : List Handle} {q : RequestQueue}
    {closing : Bool} {c : Channels} {head : Request}
    (synchronous : Synchronous past heard ⟨q, [], closing⟩ c)
    (isHead : q.requests.head? = some head) (isAcked : head.acked = true) :
    FifoLine.AllMarked q.headId c.line :=
  synchronous.acked (fun _ isIn => by cases isIn) head isHead isAcked

/-- The first request leaves the queue, and what is in flight does not fit the next. -/
theorem Synchronous.finish {past : List Event} {heard : List Handle} {q q' : RequestQueue}
    {c c' : Channels} {event : Event} {head : Request} {outcome : Outcome}
    (synchronous : Synchronous past heard ⟨q, [], false⟩ c) (valid : q'.advance.Valid)
    (fresh : ∀ request ∈ q'.requests.tail, request.attempts = 0 ∧ request.acked = false)
    (clear : (∀ event ∈ head.ending outcome, c'.Settles event) → c'.Clear q'.advance.headId)
    (letters : ∀ letter ∈ c'.toHost, letter ∈ c.toHost) (plain : event.acknowledges = none)
    (known : (Event.finished head outcome).acknowledges = some head → head.handle ∈ heard) :
    Synchronous (past ++ [event]) heard ⟨q'.advance, head.ending outcome, false⟩ c' where
  valid := valid
  fits := fun settled => .of_unmarked _ (clear settled)
  acked := by
    intro _ next isNext isAcked
    rw [(RequestQueue.advance_fresh fresh isNext).2] at isAcked
    cases isAcked
  answers := fun letter isIn => synchronous.answers letter (letters letter isIn)
  acknowledged := by
    intro e isIn request acknowledges
    rcases List.mem_append.mp isIn with early | isEnding
    · rcases List.mem_append.mp early with old | now
      · exact synchronous.acknowledged e (List.mem_append_left _ old) request acknowledges
      · rw [List.mem_singleton.mp now, plain] at acknowledges
        cases acknowledges
    · rcases List.mem_cons.mp isEnding with rfl | isCall
      · have same : request = head := by
          cases outcome <;> cases acknowledges; rfl
        subst same
        exact known acknowledges
      · obtain ⟨call, -, rfl⟩ := List.mem_map.mp isCall
        cases acknowledges

/-- The first request stays, and so does what is in flight. -/
theorem Synchronous.keeps {past : List Event} {heard : List Handle} {q q' : RequestQueue}
    {c c' : Channels} {event : Event} {owed : List Event}
    (synchronous : Synchronous past heard ⟨q, [], false⟩ c) (valid : q'.Valid)
    (fits : FifoLine.Fits (q'.requests.head?.map Request.handle) q'.headId c'.line)
    (acked : ∀ head, q'.requests.head? = some head → head.acked = true →
      FifoLine.AllMarked q'.headId c'.line)
    (letters : ∀ letter ∈ c'.toHost, letter ∈ c.toHost)
    (known : ∀ e ∈ event :: owed, ∀ request, e.acknowledges = some request →
      request.handle ∈ heard) :
    Synchronous (past ++ [event]) heard ⟨q', owed, false⟩ c' where
  valid := valid
  fits := fun _ => fits
  acked := fun _ => acked
  answers := fun letter isIn => synchronous.answers letter (letters letter isIn)
  acknowledged := by
    intro e isIn request acknowledges
    rw [List.append_assoc] at isIn
    rcases List.mem_append.mp isIn with old | new
    · exact synchronous.acknowledged e (List.mem_append_left _ old) request acknowledges
    · exact known e new request acknowledges

/-- A new request does not disturb what is in flight. -/
theorem fits_enqueue {q : RequestQueue} {line : List (Handle × UInt8)}
    (fits : FifoLine.Fits (q.requests.head?.map Request.handle) q.headId line)
    (request : Request) :
    FifoLine.Fits ((q.enqueue request).requests.head?.map Request.handle)
      (q.enqueue request).headId line := by
  rw [RequestQueue.headId_enqueue]
  cases split : q.requests with
  | nil =>
    rw [split] at fits
    exact fits.start _
  | cons head rest =>
    rw [RequestQueue.enqueue_of_cons split, split]
    rw [split] at fits
    exact fits

theorem acked_enqueue {q : RequestQueue} {request : Request} (waiting : request.acked = false)
    {head : Request} (isHead : (q.enqueue request).requests.head? = some head)
    (isAcked : head.acked = true) : q.requests.head? = some head := by
  cases split : q.requests with
  | nil =>
    rw [RequestQueue.enqueue, if_pos split] at isHead
    cases isHead
    have isAcked : request.acked = true := isAcked
    rw [waiting] at isAcked
    cases isAcked
  | cons first rest =>
    rw [RequestQueue.enqueue_of_cons split, split] at isHead
    exact isHead

/-- An ACK that is accepted answers the first request, and all that is behind it
in flight is of that request too. -/
theorem Synchronous.accept {past : List Event} {heard : List Handle} {q : RequestQueue}
    {c c' : Channels} {frame : Frame} {now : Timespec} {head : Request} {rest : List Request}
    (synchronous : Synchronous past heard ⟨q, [], false⟩ c) (first : q.requests = head :: rest)
    (isAck : frame.dataType = frameDataTypeAck) (isMatch : ackMatches frame head = true)
    (carried : c.carry (.received frame (some head) now) = some c') :
    head.handle ∈ heard ∧ FifoLine.AllMarked q.headId c'.line ∧
      ∀ letter ∈ c'.toHost, letter ∈ c.toHost := by
  obtain ⟨letter, arrives, isFrame, toPeer⟩ := Channels.carry_received carried
  have line := Channels.line_received arrives toPeer
  cases letter with
  | other frame notAck =>
    subst isFrame
    exact absurd isAck notAck
  | ack handle sequenceId frame isAck complement =>
    subst isFrame
    have matched : frame.sequenceId.toNat = (1 - head.frame.sequenceId.toNat : Int) := by
      rw [ackMatches, Bool.and_eq_true, decide_eq_true_eq] at isMatch
      exact isMatch.2
    obtain rfl : sequenceId = q.headId := by
      rw [RequestQueue.headId_cons first]
      apply UInt8.toNat_inj.mp
      omega
    have fits := synchronous.fits fun _ isIn => by cases isIn
    rw [line] at fits
    obtain ⟨isHead, behind⟩ := fits.front
    have same : head.handle = handle := by
      rw [first] at isHead
      exact Option.some.inj isHead
    rw [same]
    refine ⟨synchronous.answers _ (by rw [arrives]; exact List.mem_cons_self) _ rfl, behind, ?_⟩
    intro letter isIn
    rw [arrives]
    exact List.mem_cons_of_mem _ isIn

/-! ### One lemma for each kind of event -/

section Events

variable {past : List Event} {heard : List Handle} {q : RequestQueue} {c c' : Channels}
  {head : Request} {rest : List Request}

/-- Nothing is owed by an event that acknowledges nothing. -/
theorem acknowledges_none {event : Event} (plain : event.acknowledges = none) :
    ∀ e ∈ [event], ∀ request, e.acknowledges = some request → request.handle ∈ heard := by
  intro e isIn request acknowledges
  rw [List.mem_singleton.mp isIn, plain] at acknowledges
  cases acknowledges

/-- The queue stays as it is, and letters may arrive that are of no use. -/
theorem Synchronous.idle {event : Event} (synchronous : Synchronous past heard ⟨q, [], false⟩ c)
    (line : c'.line.Sublist c.line) (letters : ∀ letter ∈ c'.toHost, letter ∈ c.toHost)
    (plain : event.acknowledges = none) :
    Synchronous (past ++ [event]) heard ⟨q, [], false⟩ c' :=
  synchronous.keeps synchronous.valid (synchronous.fitsNow.sublist line)
    (fun _ isHead isAcked => (synchronous.marked isHead isAcked).sublist line) letters
    (acknowledges_none plain)

theorem Synchronous.accepted {request : Request}
    (synchronous : Synchronous past heard ⟨q, [], false⟩ c) (valid : (q.enqueue request).Valid)
    (waiting : request.acked = false) :
    Synchronous (past ++ [.accepted request]) heard ⟨q.enqueue request, [], false⟩ c := by
  refine synchronous.keeps valid (fits_enqueue synchronous.fitsNow request) ?_
    (fun _ isIn => isIn) (acknowledges_none rfl)
  intro head isHead isAcked
  rw [RequestQueue.headId_enqueue]
  exact synchronous.marked (acked_enqueue waiting isHead isAcked) isAcked

/-- The frame of the first request is the last in the line, whether or not the write is
counted. -/
theorem Synchronous.wrote {q' : RequestQueue} {head' : Request} {result : Int} {now : Timespec}
    (synchronous : Synchronous past heard ⟨q, [], false⟩ c) (valid : q'.Valid)
    (first : q.requests = head :: rest) (sameId : q'.headId = q.headId)
    (isHead : q'.requests.head? = some head') (handle : head'.handle = head.handle)
    (flag : head'.acked = head.acked) :
    Synchronous (past ++ [.wrote head result now]) heard ⟨q', [], false⟩
      { c with toPeer := c.toPeer ++ [head] } := by
  have fits := synchronous.fitsNow
  rw [first] at fits
  refine synchronous.keeps valid ?_ ?_ (fun _ isIn => isIn) (acknowledges_none rfl)
  · rw [isHead, Option.map_some, handle, sameId, Channels.line_wrote,
      ← RequestQueue.headId_cons first]
    exact fits.send
  · intro other isOther isAcked
    obtain rfl := Option.some.inj (isHead.symm.trans isOther)
    rw [sameId, Channels.line_wrote, ← RequestQueue.headId_cons first]
    exact (synchronous.marked (by rw [first]; rfl) (flag ▸ isAcked)).send head.handle

/-- Behind a missing reply nothing in flight fits the next request, which has the other
sequence id; behind a missing ACK it has the same one. -/
theorem Synchronous.expired {now : Timespec} (synchronous : Synchronous past heard ⟨q, [], false⟩ c)
    (valid : (if head.acked then q else q.flip).advance.Valid)
    (first : q.requests = head :: rest) :
    Synchronous (past ++ [.expired now]) heard
      ⟨(if head.acked then q else q.flip).advance,
        head.ending (if head.acked then .noReply else .noAck), false⟩ c := by
  cases isAcked : head.acked with
  | true =>
    have marked := synchronous.marked (by rw [first]; rfl) isAcked
    rw [isAcked] at valid
    refine synchronous.finish valid synchronous.valid.fresh (fun _ => ?_) (fun _ isIn => isIn) rfl
      fun none => by cases none
    rw [if_pos rfl, synchronous.valid.headId_advance first]
    exact marked.unmarked (ne_lnot _)
  | false =>
    rw [isAcked] at valid
    refine synchronous.finish valid synchronous.valid.fresh (fun settled => ?_)
      (fun _ isIn => isIn) rfl fun none => by cases none
    rw [if_neg Bool.false_ne_true, synchronous.valid.headId_flip_advance first,
      RequestQueue.headId_cons first]
    exact settled _ List.mem_cons_self

/-- The first request waits on for its reply. -/
theorem Synchronous.ackedWaits {frame : Frame} {now : Timespec}
    (synchronous : Synchronous past heard ⟨q, [], false⟩ c)
    (valid : (q.mapHead (Request.ackedAt now)).Valid) (first : q.requests = head :: rest)
    (isAck : frame.dataType = frameDataTypeAck) (isMatch : ackMatches frame head = true)
    (carried : c.carry (.received frame (some head) now) = some c') :
    Synchronous (past ++ [.received frame (some head) now]) heard
      ⟨q.mapHead (Request.ackedAt now), [.acked head], false⟩ c' := by
  obtain ⟨isHeard, marked, letters⟩ := synchronous.accept first isAck isMatch carried
  have sameId : (q.mapHead (Request.ackedAt now)).headId = q.headId :=
    q.headId_mapHead fun _ => rfl
  have isHead : (q.mapHead (Request.ackedAt now)).requests.head? = some (head.ackedAt now) := by
    rw [RequestQueue.requests_mapHead first]
    rfl
  have fits := synchronous.fitsNow.sublist (Channels.line_sublist carried)
  refine synchronous.keeps valid ?_ ?_ letters ?_
  · rw [sameId, isHead]
    rw [first] at fits
    exact fits
  · intro _ _ _
    rw [sameId]
    exact marked
  · intro e isIn request acknowledges
    rcases List.mem_cons.mp isIn with rfl | isMark
    · cases acknowledges
    · rw [List.mem_singleton.mp isMark] at acknowledges
      cases acknowledges
      exact isHeard

/-- Behind a reply without an ACK the guard says that nothing in flight fits. -/
theorem Synchronous.replied {packet : Packet} (synchronous : Synchronous past heard ⟨q, [], false⟩ c)
    (valid : q.advance.Valid) (first : q.requests = head :: rest) :
    Synchronous (past ++ [.parsed packet (some head)]) heard
      ⟨q.advance, head.ending (.reply packet), false⟩ c := by
  refine synchronous.finish valid synchronous.valid.fresh (fun settled => ?_) (fun _ isIn => isIn)
    rfl fun none => by cases none
  rw [synchronous.valid.headId_advance first]
  cases isAcked : head.acked with
  | true => exact (synchronous.marked (by rw [first]; rfl) isAcked).unmarked (ne_lnot _)
  | false =>
    rw [RequestQueue.headId_cons first]
    exact settled _ List.mem_cons_self isAcked

end Events

theorem Synchronous.step {past : List Event} {heard : List Handle} {t t' : Session}
    {c c' : Channels} {event : Event} (synchronous : Synchronous past heard t c)
    (owes : t.OwesEndings) (isOpen : t'.closing = false) (step : Session.Step t event t')
    (carried : Channels.Carry Channels.Settles c event c') :
    Synchronous (past ++ [event]) heard t' c' := by
  have valid := step.valid isOpen synchronous.valid
  obtain ⟨settles, carried⟩ := carried
  cases step with
  | owed q event rest closing =>
    rw [Channels.carry_ending (owes event List.mem_cons_self)] at carried
    cases carried
    have all (settled : ∀ e ∈ rest, c.Settles e) : ∀ e ∈ event :: rest, c.Settles e :=
      List.forall_mem_cons.mpr ⟨settles, settled⟩
    refine ⟨valid, fun settled => synchronous.fits (all settled),
      fun settled => synchronous.acked (all settled), synchronous.answers, ?_⟩
    rw [List.append_assoc]
    exact synchronous.acknowledged
  | accepted q request closing unsent waiting =>
    obtain rfl : closing = false := isOpen
    cases carried
    exact synchronous.accepted valid waiting
  | wrote q head rest result now first due =>
    cases carried
    by_cases failed : result < 0
    · rw [if_pos failed] at valid ⊢
      exact synchronous.wrote valid first rfl (by rw [first]; rfl) rfl rfl
    · rw [if_neg failed] at valid ⊢
      have isHead : (q.mapHead (Request.sent now)).requests.head? = some (head.sent now) := by
        rw [RequestQueue.requests_mapHead first]
        rfl
      exact synchronous.wrote valid first (q.headId_mapHead fun _ => rfl) isHead rfl rfl
  | expired q head rest now first sent late spent =>
    cases carried
    exact synchronous.expired valid first
  | ackedOnly q head rest frame now first isAck isMatch only =>
    obtain ⟨isHeard, marked, letters⟩ := synchronous.accept first isAck isMatch carried
    refine synchronous.finish valid synchronous.valid.fresh (fun _ => ?_) letters rfl
      fun _ => isHeard
    rw [synchronous.valid.headId_advance first]
    exact marked.unmarked (ne_lnot _)
  | ackedWaits q head rest frame now first isAck isMatch waits =>
    exact synchronous.ackedWaits valid first isAck isMatch carried
  | ignored q frame now other =>
    obtain ⟨letter, arrives, -, -⟩ := Channels.carry_received carried
    refine synchronous.idle (Channels.line_sublist carried) ?_ rfl
    intro letter isIn
    rw [arrives]
    exact List.mem_cons_of_mem _ isIn
  | replied q head rest packet first isMatch =>
    cases carried
    exact synchronous.replied valid first
  | closing => cases isOpen
  | unexpected | wroteAck | notified =>
    cases carried
    exact synchronous.idle (List.Sublist.refl _) (fun _ isIn => isIn) rfl

/-- What one call of the connection keeps. -/
theorem Synchronous.call {past events : List Event} {heard : List Handle} {s s' : State}
    {c c' : Channels} (synchronous : Synchronous past heard (s.session false) c)
    (records : Records s false events s' false)
    (carried : Trace.Run (Channels.Carry Channels.Settles) c events c') :
    Synchronous (past ++ events) heard (s'.session false) c' := by
  have whole := Trace.Run.invariant
    (fun more (x : Session × Channels) => x.1.OwesEndings ∧
      (x.1.closing = false → Synchronous (past ++ more) heard x.1 x.2)) ?_ ?_
    (records.run.prod carried)
  · exact whole.2 rfl
  · refine ⟨(fun _ isIn => by cases isIn), fun _ => ?_⟩
    rwa [List.append_nil]
  · rintro more ⟨t, c⟩ event ⟨t', c'⟩ ⟨owes, now⟩ ⟨step, carries⟩
    refine ⟨owes.step step, fun isOpen => ?_⟩
    rw [← List.append_assoc]
    exact (now (step.was_open isOpen)).step owes isOpen step carries

/-! ## Runs of the network -/

namespace Network

/-- The invariant of the network. -/
structure Sound (n : Network) : Prop where
  synchronous : Synchronous n.conn.log n.heard (n.conn.session false) n.channels
  accounted : Accounted n.conn.log (n.conn.session false)

theorem sound_start (fconn : FrameConn) (host : Host) : (start fconn host).Sound where
  synchronous :=
    { valid := valid_start fconn
      fits := fun _ => .of_unmarked _ fun _ isIn => by cases isIn
      acked := fun _ _ none => by cases none
      answers := fun _ isIn => by cases isIn
      acknowledged := fun _ isIn => by cases isIn }
  accounted := accounted_start fconn host

theorem Sound.step {env : Env} {n n' : Network} (sound : n.Sound)
    (step : Step env Channels.Settles n n') : n'.Sound := by
  obtain ⟨synchronous, accounted⟩ := sound
  cases step with
  | call c conn events channels ran log carried =>
    obtain ⟨events', records⟩ := call_records ran
    obtain rfl : events = events' := List.append_cancel_left (log.symm.trans records.log)
    constructor
    · dsimp only
      rw [log]
      exact synchronous.call records carried
    · dsimp only
      rw [log]
      exact records.accounted accounted
  | answer request rest ack arrives isAck complement =>
    refine ⟨synchronous.of_line rfl ?_ (fun _ isIn => List.mem_append_left _ isIn) ?_, accounted⟩
    · simp [Channels.line, arrives, Letter.answers]
    · intro letter isIn message isMessage
      rcases List.mem_append.mp isIn with old | new
      · exact List.mem_append_left _ (synchronous.answers letter old message isMessage)
      · rw [List.mem_singleton.mp new] at isMessage
        cases isMessage
        exact List.mem_append_right _ (List.mem_singleton.mpr rfl)
  | send frame notAck =>
    refine ⟨synchronous.of_line rfl ?_ (fun _ isIn => isIn) ?_, accounted⟩
    · simp [Channels.line, Letter.answers]
    · intro letter isIn message isMessage
      rcases List.mem_append.mp isIn with old | new
      · exact synchronous.answers letter old message isMessage
      · rw [List.mem_singleton.mp new] at isMessage
        cases isMessage
  | lose channels toPeer toHost =>
    refine ⟨synchronous.of_line rfl ?_ (fun _ isIn => isIn) ?_, accounted⟩
    · exact (toHost.filterMap _).append (toPeer.map _)
    · exact fun letter isIn => synchronous.answers letter (toHost.subset isIn)

theorem Sound.acksHeard {n : Network} (sound : n.Sound) : AcksHeard n.conn.log n.heard := by
  obtain ⟨synchronous, accounted⟩ := sound
  have acknowledged := synchronous.acknowledged
  have calls := accounted.calls
  rw [State.session, List.append_nil] at acknowledged calls
  refine ⟨acknowledged, ?_⟩
  intro call isCall isResult
  rw [calls] at isCall
  obtain ⟨⟨request, outcome⟩, isDone, made⟩ := List.mem_filterMap.mp isCall
  rw [Request.callOf_handle made]
  obtain ⟨event, isIn, isFinished⟩ := List.mem_filterMap.mp isDone
  obtain rfl : event = .finished request outcome := by
    cases event <;> cases isFinished
    rfl
  refine acknowledged _ isIn request ?_
  cases outcome with
  | ack frame => rfl
  | reply | noAck | noReply | closed =>
    obtain ⟨fn, -, rfl⟩ := Option.map_eq_some_iff.mp made
    cases isResult

/-- **No ACK of an earlier request acknowledges a later one**, in every run of the
network in which nothing in flight fits the next request whenever a request leaves
the queue and no ACK for it was accepted. -/
theorem acks_heard {env : Env} {fconn : FrameConn} {host : Host} {n : Network}
    (run : Run env Channels.Settles (start fconn host) n) : AcksHeard n.conn.log n.heard := by
  have sound : n.Sound := by
    induction run with
    | refl => exact sound_start fconn host
    | tail _ step ih => exact ih.step step
  exact sound.acksHeard

/-! ## Running the network -/

/-- The channels after events that satisfy the guard. -/
def carryAll (guard : Channels → Event → Prop) [∀ c event, Decidable (guard c event)] :
    List Event → Channels → Option Channels
  | [], c => some c
  | event :: rest, c => if guard c event then (c.carry event).bind (carryAll guard rest) else none

theorem carryAll_run {guard : Channels → Event → Prop} [∀ c event, Decidable (guard c event)]
    {events : List Event} {c c' : Channels} (carried : carryAll guard events c = some c') :
    Trace.Run (Channels.Carry guard) c events c' := by
  induction events generalizing c with
  | nil =>
    cases carried
    exact .nil _
  | cons event rest ih =>
    rw [carryAll] at carried
    split at carried
    · rename_i holds
      obtain ⟨next, now, later⟩ := Option.bind_eq_some_iff.mp carried
      exact .cons ⟨holds, now⟩ (ih later)
    · cases carried

/-- A step to take. Frames are lost from the front of the channels. -/
inductive Move
  | call (c : Call)
  | answer (ack : Frame)
  | lose (toPeer toHost : Nat)

def move (env : Env) (guard : Channels → Event → Prop) [∀ c event, Decidable (guard c event)]
    (n : Network) : Move → Option Network
  | .call c => do
    let conn ← call env n.conn c
    if conn.log = n.conn.log ++ conn.log.drop n.conn.log.length then
      let channels ← carryAll guard (conn.log.drop n.conn.log.length) n.channels
      return { n with conn, channels }
    else none
  | .answer ack =>
    match n.channels.toPeer with
    | [] => none
    | request :: rest =>
      if fits : ack.dataType = frameDataTypeAck ∧
          (ack.sequenceId.toNat : Int) = 1 - request.frame.sequenceId.toNat then
        some { n with
          channels :=
            { toPeer := rest
              toHost := n.channels.toHost ++
                [.ack request.handle request.frame.sequenceId ack fits.1 fits.2] }
          heard := n.heard ++ [request.handle] }
      else none
  | .lose toPeer toHost =>
    some { n with
      channels :=
        { toPeer := n.channels.toPeer.drop toPeer, toHost := n.channels.toHost.drop toHost } }

theorem move_step {env : Env} {guard : Channels → Event → Prop}
    [∀ c event, Decidable (guard c event)] {n n' : Network} {m : Move}
    (moved : move env guard n m = some n') : Step env guard n n' := by
  cases m with
  | call c =>
    simp only [move, Option.bind_eq_bind, Option.bind_eq_some_iff] at moved
    obtain ⟨conn, ran, moved⟩ := moved
    split at moved
    · rename_i log
      obtain ⟨channels, carried, moved⟩ := Option.bind_eq_some_iff.mp moved
      cases moved
      exact .call n c conn _ channels ran log (carryAll_run carried)
    · cases moved
  | answer ack =>
    simp only [move] at moved
    split at moved
    · cases moved
    · rename_i request rest arrives
      split at moved
      · rename_i fits
        cases moved
        exact .answer n request rest ack arrives fits.1 fits.2
      · cases moved
  | lose toPeer toHost =>
    cases moved
    exact .lose n _ (List.drop_sublist _ _) (List.drop_sublist _ _)

/-- Steps one after the other. -/
theorem moves_run {env : Env} {guard : Channels → Event → Prop}
    [∀ c event, Decidable (guard c event)] {n n' : Network} {moves : List Move}
    (moved : moves.foldlM (move env guard) n = some n') : Run env guard n n' :=
  Trace.foldlM_related (Run env guard) (fun _ => .refl) (fun _ _ _ => .trans)
    (fun _ _ _ _ first => .single (move_step first)) moved

instance (c : Channels) (event : Event) : Decidable (c.Settles event) :=
  match event with
  | .finished request .noAck => inferInstanceAs
      (Decidable (∀ message ∈ c.line, message.2 ≠ request.frame.sequenceId))
  | .finished request (.reply _) => inferInstanceAs
      (Decidable (request.acked = false → ∀ message ∈ c.line,
        message.2 ≠ lnot request.frame.sequenceId))
  | .finished _ (.ack _) | .finished _ .noReply | .finished _ .closed => .isTrue trivial
  | .accepted _ | .wrote _ _ _ | .expired _ | .received _ _ _ | .acked _ | .parsed _ _ | .closing
  | .called _ | .wroteAck _ _ | .notified _ _ => .isTrue trivial

/-- The ACK of the frames with sequence id 0. -/
def ackOfZero : Frame := { dataType := frameDataTypeAck, sequenceId := 1, payloadLength := 0, body := [2] }

/-- The first request is given up after three tries, its ACK and two copies of its frame were lost
by then; the second one has the same sequence id, and the peer hears and acknowledges it. -/
theorem acks_heard_power_off_twice :
    ∃ n, Run Env.idle Channels.Settles (start .fresh (.listing
        [.data [0x3e, 1, 1, 0, 0, 0, 0, 2, 0x3c]]
        [.wrote 100, .wrote 100, .wrote 100, .wrote 100])) n ∧
      (callsIn n.conn.log).map Called.arg = [.error mdrENoAck, .result none] ∧
      AcksHeard n.conn.log n.heard := by
  obtain ⟨n, moved, called⟩ := (Option.any_eq_true _ _).mp (show
    (([.call (.user powerOff), .call (.user powerOff), .call (.process ⟨0, 0⟩ false true),
      .answer ackOfZero, .call (.process ⟨2, 0⟩ false true), .call (.process ⟨4, 0⟩ false true),
      .lose 2 1, .call (.process ⟨6, 0⟩ false true), .call (.process ⟨7, 0⟩ false true),
      .answer ackOfZero, .call (.process ⟨7, 0⟩ true false)] : List Move).foldlM
      (move Env.idle Channels.Settles)
      (start .fresh (.listing [.data [0x3e, 1, 1, 0, 0, 0, 0, 2, 0x3c]]
        [.wrote 100, .wrote 100, .wrote 100, .wrote 100]))).any
      (fun n => (callsIn n.conn.log).map Called.arg = [.error mdrENoAck, .result none]) = true
    by decide +kernel)
  exact ⟨n, moves_run moved, of_decide_eq_true called, acks_heard (moves_run moved)⟩

/-- A late ACK crosses `MDR_E_NO_ACK`: the first request is given up after three
tries, its ACK still on the way; the second one is sent with the same sequence id
and its frame is lost; the ACK of the first completes it. -/
theorem not_acksHeard_late_ack :
    ∃ n, Run Env.idle (fun _ _ => True) (start .fresh (.listing
        [.data [0x3e, 1, 1, 0, 0, 0, 0, 2, 0x3c]]
        [.wrote 100, .wrote 100, .wrote 100, .wrote 100])) n ∧
      ¬ AcksHeard n.conn.log n.heard := by
  obtain ⟨n, moved, broken⟩ := (Option.any_eq_true _ _).mp (show
    (([.call (.user powerOff), .call (.user powerOff), .call (.process ⟨0, 0⟩ false true),
      .answer ackOfZero, .call (.process ⟨2, 0⟩ false true), .call (.process ⟨4, 0⟩ false true),
      .call (.process ⟨6, 0⟩ false true), .lose 2 0, .call (.process ⟨7, 0⟩ false true),
      .lose 1 0, .call (.process ⟨7, 0⟩ true false)] : List Move).foldlM
      (move Env.idle fun _ _ => True)
      (start .fresh (.listing [.data [0x3e, 1, 1, 0, 0, 0, 0, 2, 0x3c]]
        [.wrote 100, .wrote 100, .wrote 100, .wrote 100]))).any
      (fun n => (callsIn n.conn.log).any fun call =>
        call.arg = .result none && call.handle ∉ n.heard) = true by decide +kernel)
  obtain ⟨call, isCall, early⟩ := List.any_eq_true.mp broken
  obtain ⟨isResult, unheard⟩ := Bool.and_eq_true_iff.mp early
  refine ⟨n, moves_run moved, fun heard => ?_⟩
  exact absurd (heard.called call isCall (of_decide_eq_true isResult)) (of_decide_eq_true unheard)

end Network

end Libmdr
