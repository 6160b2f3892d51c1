import Libmdr.PacketConn.Completion

/-!
# The sequence ids of the queue

The first request of the queue has the sequence id 0 or 1, and the next one gets
the other, or the same after the roll-back of `MDR_E_NO_ACK`. Only the first
request was ever sent or acknowledged.
-/

namespace Libmdr
set_option autoImplicit false

theorem lnot_bit {x : UInt8} (bit : x = 0 ∨ x = 1) : lnot x = 0 ∨ lnot x = 1 := by
  rcases bit with rfl | rfl
  · exact .inr rfl
  · exact .inl rfl

theorem lnot_lnot {x : UInt8} (bit : x = 0 ∨ x = 1) : lnot (lnot x) = x := by
  rcases bit with rfl | rfl <;> rfl

theorem ne_lnot (x : UInt8) : x ≠ lnot x := by
  unfold lnot
  split
  · rename_i zero
    rw [zero]
    decide
  · assumption

theorem lnot_toNat {x : UInt8} (bit : x = 0 ∨ x = 1) : ((lnot x).toNat : Int) = 1 - x.toNat := by
  rcases bit with rfl | rfl <;> rfl

namespace RequestQueue

/-- The sequence id of the first request, or the one that the next request gets. -/
def headId (q : RequestQueue) : UInt8 :=
  match q.requests with
  | [] => q.nextSequenceId
  | head :: _ => head.frame.sequenceId

/-- Sequence ids are 0 and 1, the next one is not that of the first request, and
only the first request was sent or acknowledged. -/
structure Valid (q : RequestQueue) : Prop where
  bit : q.headId = 0 ∨ q.headId = 1
  next : ∀ head rest, q.requests = head :: rest → q.nextSequenceId = lnot head.frame.sequenceId
  fresh : ∀ request ∈ q.requests.tail, request.attempts = 0 ∧ request.acked = false

theorem headId_cons {q : RequestQueue} {head : Request} {rest : List Request}
    (first : q.requests = head :: rest) : q.headId = head.frame.sequenceId := by
  rw [headId, first]

theorem headId_enqueue (q : RequestQueue) (request : Request) :
    (q.enqueue request).headId = q.headId := by
  obtain ⟨nextSequenceId, requests⟩ := q
  cases requests <;> rfl

theorem headId_mapHead (q : RequestQueue) {f : Request → Request}
    (same : ∀ request, (f request).frame = request.frame) : (q.mapHead f).headId = q.headId := by
  obtain ⟨nextSequenceId, requests⟩ := q
  cases requests with
  | nil => rfl
  | cons head rest =>
    change (f head).frame.sequenceId = head.frame.sequenceId
    rw [same]

/-- The request behind the first one takes the next sequence id. -/
theorem headId_advance {q : RequestQueue} {head : Request} {rest : List Request}
    (first : q.requests = head :: rest) : q.advance.headId = q.nextSequenceId := by
  obtain ⟨nextSequenceId, requests⟩ := q
  subst first
  cases rest <;> rfl

/-- The next request takes the other sequence id. -/
theorem Valid.headId_advance {q : RequestQueue} (valid : q.Valid) {head : Request}
    {rest : List Request} (first : q.requests = head :: rest) :
    q.advance.headId = lnot q.headId := by
  rw [RequestQueue.headId_advance first, valid.next head rest first, headId_cons first]

/-- After the roll-back the next request takes the same sequence id. -/
theorem Valid.headId_flip_advance {q : RequestQueue} (valid : q.Valid) {head : Request}
    {rest : List Request} (first : q.requests = head :: rest) :
    q.flip.advance.headId = q.headId := by
  have flipped : q.flip.requests = head :: rest := first
  have bit := valid.bit
  rw [headId_cons first] at bit ⊢
  rw [RequestQueue.headId_advance flipped, flip, valid.next head rest first, lnot_lnot bit]

theorem Valid.nextBit {q : RequestQueue} (valid : q.Valid) :
    q.nextSequenceId = 0 ∨ q.nextSequenceId = 1 := by
  obtain ⟨bit, next, -⟩ := valid
  cases first : q.requests with
  | nil =>
    rw [headId, first] at bit
    exact bit
  | cons head rest =>
    rw [headId_cons first] at bit
    rw [next head rest first]
    exact lnot_bit bit

theorem Valid.enqueue {q : RequestQueue} (valid : q.Valid) {request : Request}
    (unsent : request.attempts = 0) (waiting : request.acked = false) :
    (q.enqueue request).Valid where
  bit := by
    rw [headId_enqueue]
    exact valid.bit
  next := by
    intro head rest first
    unfold RequestQueue.enqueue at first ⊢
    split at first
    · rename_i empty
      cases first
      rw [if_pos empty]
      rfl
    · rename_i nonempty
      rw [if_neg nonempty]
      obtain ⟨old, more, split⟩ := List.exists_cons_of_ne_nil nonempty
      rw [split] at first
      injection first with same
      subst same
      exact valid.next old more split
  fresh := by
    intro r isIn
    unfold RequestQueue.enqueue at isIn
    split at isIn
    · cases isIn
    · rename_i nonempty
      rw [List.tail_append_of_ne_nil nonempty] at isIn
      rcases List.mem_append.mp isIn with old | new
      · exact valid.fresh r old
      · rw [List.mem_singleton.mp new]
        exact ⟨unsent, waiting⟩

theorem valid_advance {q : RequestQueue} {head : Request} {rest : List Request}
    (first : q.requests = head :: rest) (bit : q.nextSequenceId = 0 ∨ q.nextSequenceId = 1)
    (fresh : ∀ request ∈ rest, request.attempts = 0 ∧ request.acked = false) :
    q.advance.Valid where
  bit := by
    rw [headId_advance first]
    exact bit
  next := by
    obtain ⟨nextSequenceId, requests⟩ := q
    subst first
    cases rest with
    | nil => exact fun _ _ none => by cases none
    | cons next rest =>
      intro head' rest' first'
      cases first'
      rfl
  fresh := by
    obtain ⟨nextSequenceId, requests⟩ := q
    subst first
    cases rest with
    | nil => exact fun _ isIn => by cases isIn
    | cons next rest => exact fun r isIn => fresh r (List.mem_cons_of_mem _ isIn)

theorem Valid.advance {q : RequestQueue} (valid : q.Valid) {head : Request} {rest : List Request}
    (first : q.requests = head :: rest) : q.advance.Valid := by
  have fresh := valid.fresh
  rw [first] at fresh
  exact valid_advance first valid.nextBit fresh

theorem Valid.flip_advance {q : RequestQueue} (valid : q.Valid) {head : Request}
    {rest : List Request} (first : q.requests = head :: rest) : q.flip.advance.Valid := by
  have fresh := valid.fresh
  have flipped : q.flip.requests = head :: rest := first
  rw [first] at fresh
  exact valid_advance flipped (lnot_bit valid.nextBit) fresh

/-- The request that becomes the first one was not sent or acknowledged. -/
theorem advance_fresh {q : RequestQueue}
    (fresh : ∀ request ∈ q.requests.tail, request.attempts = 0 ∧ request.acked = false)
    {next : Request} (isHead : q.advance.requests.head? = some next) :
    next.attempts = 0 ∧ next.acked = false := by
  obtain ⟨nextSequenceId, requests⟩ := q
  rcases requests with _ | ⟨old, _ | ⟨next, more⟩⟩
  · cases isHead
  · cases isHead
  · cases isHead
    exact fresh next (by simp)

theorem Valid.mapHead {q : RequestQueue} (valid : q.Valid) {f : Request → Request}
    (same : ∀ request, (f request).frame = request.frame) : (q.mapHead f).Valid where
  bit := by
    rw [headId_mapHead q same]
    exact valid.bit
  next := by
    intro head rest first
    cases split : q.requests with
    | nil =>
      rw [RequestQueue.mapHead, split] at first
      dsimp only at first
      rw [split] at first
      cases first
    | cons old more =>
      rw [RequestQueue.mapHead, split] at first ⊢
      injection first with isFirst
      subst isFirst
      rw [same]
      exact valid.next old more split
  fresh := by
    have fresh := valid.fresh
    cases split : q.requests with
    | nil =>
      rw [RequestQueue.mapHead, split]
      exact fresh
    | cons old more =>
      rw [split] at fresh
      rw [RequestQueue.mapHead, split]
      exact fresh

end RequestQueue

/-- The queue of a new connection. -/
theorem valid_start (fconn : FrameConn) : (PacketConn.newFromFrameconn fconn).queue.Valid where
  bit := .inl rfl
  next := fun _ _ none => by cases none
  fresh := fun _ isIn => by cases isIn

/-- A connection that is being closed stays so. -/
theorem Session.Step.was_open {t t' : Session} {event : Event} (step : Session.Step t event t')
    (isOpen : t'.closing = false) : t.closing = false := by
  cases step with
  | closing => cases isOpen
  | owed | accepted => exact isOpen
  | _ => rfl

theorem Session.Step.valid {t t' : Session} {event : Event} (step : Session.Step t event t')
    (isOpen : t'.closing = false) (valid : t.queue.Valid) : t'.queue.Valid := by
  cases step with
  | owed q event rest closing => exact valid
  | accepted q request closing unsent waiting =>
    obtain rfl : closing = false := isOpen
    exact valid.enqueue unsent waiting
  | wrote q head rest result now first due =>
    dsimp only
    split
    · exact valid
    · exact valid.mapHead fun _ => rfl
  | expired q head rest now first sent late spent =>
    cases head.acked with
    | true => exact valid.advance first
    | false => exact valid.flip_advance first
  | ackedOnly q head rest frame now first isAck isMatch only => exact valid.advance first
  | ackedWaits q head rest frame now first isAck isMatch waits =>
    exact valid.mapHead fun _ => rfl
  | replied q head rest packet first isMatch => exact valid.advance first
  | closing => cases isOpen
  | ignored | unexpected | wroteAck | notified => exact valid

end Libmdr
