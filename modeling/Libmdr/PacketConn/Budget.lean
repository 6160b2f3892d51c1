import Libmdr.PacketConn.Retransmission

/-!
# What a request has left

A request is transmitted at most three times, marked as acknowledged at most once, and ends. Each
of these uses up one of the five steps that it has, and the steps of the requests in front of it
are used up first. The first request is due again a second after its last step, so a call that
comes later finds it due, or a step was made in between.
-/

namespace Libmdr
set_option autoImplicit false

/-- A second in nanoseconds. -/
abbrev second : Int := 1000000000

/-- A waiting request: its timer, and the length of its payload. -/
abbrev Waiting := Timer × UInt32

def Request.waiting (request : Request) : Waiting := (request.timer, request.frame.payloadLength)

namespace RequestQueue

def line (q : RequestQueue) : List Waiting := q.requests.map Request.waiting

theorem line_enqueue (q : RequestQueue) (request : Request) :
    (q.enqueue request).line = q.line ++ [request.waiting] :=
  map_enqueue (fun _ _ => rfl) q request

theorem line_foldl_enqueue (q : RequestQueue) (requests : List Request) :
    (requests.foldl enqueue q).line = q.line ++ requests.map Request.waiting := by
  induction requests generalizing q with
  | nil => exact (List.append_nil _).symm
  | cons request rest ih =>
    rw [List.foldl_cons, ih, line_enqueue, List.append_assoc]
    rfl

theorem line_advance (q : RequestQueue) : q.advance.line = q.line.tail :=
  map_advance (fun _ _ => rfl) q

theorem line_cons {q : RequestQueue} {head : Request} {rest : List Request}
    (first : q.requests = head :: rest) : q.line = head.waiting :: rest.map Request.waiting := by
  rw [line, first]
  rfl

theorem line_mapHead {q : RequestQueue} {head : Request} {rest : List Request}
    (first : q.requests = head :: rest) (f : Request → Request) :
    (q.mapHead f).line = (f head).waiting :: rest.map Request.waiting := by
  rw [line, requests_mapHead first, List.map_cons]

end RequestQueue

/-! ## The steps -/

/-- The steps that a request has left. -/
def Waiting.steps (x : Waiting) : Nat :=
  (packetMaxTries - x.1.attempts) + if x.1.acked then 1 else 2

/-- The steps that are left until a request has ended, those of the requests in front of it
included. -/
def stepsTo (handle : Handle) (line : List Waiting) : Nat :=
  ((line.filter fun x => decide (x.1.handle ≤ handle)).map Waiting.steps).sum

section Steps

variable {handle : Handle} {x : Waiting} {line more : List Waiting}

theorem Waiting.steps_pos (x : Waiting) : 0 < x.steps := by
  unfold steps
  split <;> omega

/-- Three writes, an ACK and an end are the most that a request can take. -/
theorem Waiting.steps_le (x : Waiting) : x.steps ≤ 5 := by
  unfold steps packetMaxTries
  split <;> omega

theorem stepsTo_append : stepsTo handle (line ++ more) = stepsTo handle line + stepsTo handle more := by
  rw [stepsTo, List.filter_append, List.map_append, List.sum_append]
  rfl

theorem stepsTo_cons (own : x.1.handle ≤ handle) :
    stepsTo handle (x :: line) = x.steps + stepsTo handle line := by
  rw [stepsTo, List.filter_cons_of_pos (by simpa using own), List.map_cons, List.sum_cons]
  rfl

theorem stepsTo_cons_later (later : handle < x.1.handle) :
    stepsTo handle (x :: line) = stepsTo handle line := by
  rw [stepsTo, List.filter_cons_of_neg (by simpa using later)]
  rfl

/-- Nothing is left when all requests are later ones. -/
theorem stepsTo_eq_zero (later : ∀ x ∈ line, handle < x.1.handle) : stepsTo handle line = 0 := by
  have none : line.filter (fun x => decide (x.1.handle ≤ handle)) = [] :=
    List.filter_eq_nil_iff.mpr fun x isIn => by simpa using later x isIn
  rw [stepsTo, none]
  rfl

theorem stepsTo_le_cons : stepsTo handle line ≤ stepsTo handle (x :: line) := by
  by_cases own : x.1.handle ≤ handle
  · rw [stepsTo_cons own]
    exact Nat.le_add_left _ _
  · rw [stepsTo_cons_later (Nat.lt_of_not_le own)]

/-- While the request waits, a step is left. -/
theorem stepsTo_pos (isIn : x ∈ line) (own : x.1.handle ≤ handle) : 0 < stepsTo handle line := by
  obtain ⟨front, back, rfl⟩ := List.append_of_mem isIn
  rw [stepsTo_append, stepsTo_cons own]
  have some := x.steps_pos
  omega

theorem stepsTo_le (handle : Handle) (line : List Waiting) :
    stepsTo handle line ≤ 5 * (line.filter fun x => decide (x.1.handle ≤ handle)).length := by
  induction line with
  | nil => exact Nat.le_refl 0
  | cons x rest ih =>
    by_cases own : x.1.handle ≤ handle
    · rw [stepsTo_cons own, List.filter_cons_of_pos (by simpa using own), List.length_cons]
      have few := x.steps_le
      omega
    · rw [stepsTo_cons_later (Nat.lt_of_not_le own), List.filter_cons_of_neg (by simpa using own)]
      exact ih

end Steps

/-! ## What an event does to the line -/

/-- The first request is transmitted. -/
def Waiting.sent (now : Timespec) (x : Waiting) : Waiting :=
  ({ x.1 with attempts := x.1.attempts + 1, timeout := timespecAdd now packetAckTimeout }, x.2)

/-- The first request is marked as acknowledged. -/
def Waiting.ackedAt (now : Timespec) (x : Waiting) : Waiting :=
  ({ x.1 with acked := true, timeout := timespecAdd now packetReplyTimeout }, x.2)

/-- The line before an event and behind it. -/
inductive LineStep : List Waiting → Event → List Waiting → Prop
  | same (line : List Waiting) (event : Event) : LineStep line event line
  | accepted (line : List Waiting) (request : Request) (unsent : request.attempts = 0) :
      LineStep line (.accepted request) (line ++ [request.waiting])
  | sent (x : Waiting) (rest : List Waiting) (event : Event) (now : Timespec)
      (reading : event.reading = some now) (left : x.1.attempts < packetMaxTries) :
      LineStep (x :: rest) event (x.sent now :: rest)
  | acked (x : Waiting) (rest : List Waiting) (event : Event) (now : Timespec)
      (reading : event.reading = some now) (waits : x.1.acked = false) :
      LineStep (x :: rest) event (x.ackedAt now :: rest)
  | ended (x : Waiting) (rest : List Waiting) (event : Event) : LineStep (x :: rest) event rest

/-- Each event of an open connection moves the line as one of these steps. -/
theorem Session.Step.lineStep {t t' : Session} {event : Event} (step : Session.Step t event t')
    (isOpen : t'.closing = false) : LineStep t.queue.line event t'.queue.line := by
  have advanced {q : RequestQueue} {head : Request} {rest : List Request} {event : Event}
      (first : q.requests = head :: rest) : LineStep q.line event q.advance.line := by
    rw [RequestQueue.line_advance, RequestQueue.line_cons first]
    exact .ended _ _ _
  cases step with
  | owed => exact .same _ _
  | accepted q request closing unsent waiting =>
    obtain rfl : closing = false := isOpen
    have enqueued := q.line_enqueue request
    rw [Session.add, if_neg (by decide)]
    rw [enqueued]
    exact .accepted _ _ unsent
  | wrote q head rest result now first due =>
    dsimp only
    split
    · exact .same _ _
    · rw [RequestQueue.line_mapHead first, RequestQueue.line_cons first]
      exact .sent _ _ _ now rfl (Request.attempts_lt_of_due due)
  | expired q head rest now first sent late spent =>
    cases head.acked with
    | true => exact advanced first
    | false => exact advanced (q := q.flip) first
  | ackedOnly q head rest frame now first => exact advanced first
  | ackedWaits q head rest frame now first isAck isMatch waits =>
    rw [RequestQueue.line_mapHead first, RequestQueue.line_cons first]
    refine .acked _ _ _ now rfl ?_
    unfold ackMatches at isMatch
    simp only [Bool.and_eq_true, Bool.not_eq_true'] at isMatch
    exact isMatch.1
  | replied q head rest packet first => exact advanced first
  | closing => cases isOpen
  | ignored | unexpected | wroteAck | notified => exact .same _ _

/-! ## What is kept -/

/-- The timeouts that count were set no later than at a time, given in nanoseconds. -/
def Timed (latest : Int) (line : List Waiting) : Prop :=
  ∀ x ∈ line, x.1.attempts ≠ 0 → x.1.timeout.Valid ∧ x.1.timeout.nanos ≤ latest + second

/-- A request and those in front of it have no more than `bound` steps left, and one less when the
first of them was stepped later than the last turn. All of them can be written. -/
structure Nearing (handle : Handle) (turn : Option Timespec) (bound : Nat) (line : List Waiting) :
    Prop where
  steps : stepsTo handle line ≤ bound
  calm : ∀ x ∈ line, x.1.handle ≤ handle → x.1.attempts ≠ 0 →
    (∃ last ∈ turn, x.1.timeout.nanos ≤ last.nanos + second) ∨ stepsTo handle line + 1 ≤ bound
  small : ∀ x ∈ line, x.1.handle ≤ handle → 2 * x.2.toNat + 16 ≤ frameBufSize

section Kept

variable {handle : Handle} {turn : Option Timespec} {bound : Nat} {latest : Int}
  {line line' : List Waiting} {event : Event} {x y : Waiting}

theorem Timed.mono {later : Int} (timed : Timed latest line) (mono : latest ≤ later) :
    Timed later line := fun x isIn sent =>
  have ⟨valid, bounded⟩ := timed x isIn sent
  ⟨valid, by omega⟩

/-- A step sets no timer more than a second beyond the latest reading of the clock. -/
theorem LineStep.timed (step : LineStep line event line') (timed : Timed latest line)
    (reading : ∀ now, event.reading = some now → now.Valid ∧ now.nanos ≤ latest) :
    Timed latest line' := by
  have again {now : Timespec} (isRead : event.reading = some now) :
      (timespecAdd now packetAckTimeout).Valid ∧
        (timespecAdd now packetAckTimeout).nanos ≤ latest + second := by
    obtain ⟨valid, early⟩ := reading now isRead
    rw [timespecAdd_nanos]
    exact ⟨timespecAdd_valid valid, by unfold second; omega⟩
  cases step with
  | same => exact timed
  | accepted line request unsent =>
    refine List.forall_mem_append.mpr ⟨timed, List.forall_mem_singleton.mpr ?_⟩
    exact fun sent => absurd unsent sent
  | sent x rest event now isRead =>
    exact List.forall_mem_cons.mpr ⟨fun _ => again isRead, (List.forall_mem_cons.mp timed).2⟩
  | acked x rest event now isRead =>
    exact List.forall_mem_cons.mpr ⟨fun _ => again isRead, (List.forall_mem_cons.mp timed).2⟩
  | ended => exact (List.forall_mem_cons.mp timed).2

namespace Nearing

/-- The requests behind the first one. -/
theorem tail (nearing : Nearing handle turn bound (x :: line)) :
    Nearing handle turn bound line where
  steps := Nat.le_trans stepsTo_le_cons nearing.steps
  calm := fun y isIn own sent =>
    (nearing.calm y (List.mem_cons_of_mem _ isIn) own sent).imp_right fun less =>
      Nat.le_trans (Nat.succ_le_succ stepsTo_le_cons) less
  small := fun y isIn => nearing.small y (List.mem_cons_of_mem _ isIn)

/-- The first request takes a step. -/
theorem stepped (nearing : Nearing handle turn bound (x :: line)) (same : y.1.handle = x.1.handle)
    (size : y.2 = x.2) (less : y.steps < x.steps) : Nearing handle turn bound (y :: line) := by
  by_cases own : x.1.handle ≤ handle
  · have fewer : stepsTo handle (y :: line) + 1 ≤ bound := by
      have steps := nearing.steps
      rw [stepsTo_cons own] at steps
      rw [stepsTo_cons (by rwa [same])]
      omega
    refine ⟨Nat.le_of_succ_le fewer, fun _ _ _ _ => .inr fewer, ?_⟩
    refine List.forall_mem_cons.mpr ⟨fun _ => ?_, nearing.tail.small⟩
    rw [size]
    exact nearing.small x List.mem_cons_self own
  · have later : handle < y.1.handle := by rw [same]; exact Nat.lt_of_not_le own
    obtain ⟨steps, calm, small⟩ := nearing.tail
    refine ⟨by rwa [stepsTo_cons_later later], ?_, ?_⟩
    · rw [stepsTo_cons_later later]
      exact List.forall_mem_cons.mpr ⟨fun own' => absurd own' (Nat.not_le.mpr later), calm⟩
    · exact List.forall_mem_cons.mpr ⟨fun own' => absurd own' (Nat.not_le.mpr later), small⟩

/-- A later request comes behind. -/
theorem behind (nearing : Nearing handle turn bound line) (later : handle < y.1.handle) :
    Nearing handle turn bound (line ++ [y]) := by
  obtain ⟨steps, calm, small⟩ := nearing
  have same : stepsTo handle (line ++ [y]) = stepsTo handle line := by
    rw [stepsTo_append, stepsTo_cons_later later]
    rfl
  refine ⟨by rwa [same], ?_, ?_⟩
  · rw [same]
    refine List.forall_mem_append.mpr ⟨calm, List.forall_mem_singleton.mpr ?_⟩
    exact fun own => absurd own (Nat.not_le.mpr later)
  · refine List.forall_mem_append.mpr ⟨small, List.forall_mem_singleton.mpr ?_⟩
    exact fun own => absurd own (Nat.not_le.mpr later)

end Nearing

theorem Waiting.steps_sent {now : Timespec} (left : x.1.attempts < packetMaxTries) :
    (x.sent now).steps < x.steps := by
  have fewer : packetMaxTries - (x.1.attempts + 1) < packetMaxTries - x.1.attempts :=
    Nat.sub_lt_sub_left left (Nat.lt_succ_self _)
  exact Nat.add_lt_add_right fewer _

theorem Waiting.steps_ackedAt {now : Timespec} (waits : x.1.acked = false) :
    (x.ackedAt now).steps < x.steps := by
  simp [steps, ackedAt, waits]

theorem LineStep.nearing (step : LineStep line event line')
    (nearing : Nearing handle turn bound line)
    (later : ∀ request ∈ acceptedIn [event], handle < request.handle) :
    Nearing handle turn bound line' := by
  cases step with
  | same => exact nearing
  | accepted line request => exact nearing.behind (later request List.mem_cons_self)
  | sent x rest event now isRead left => exact nearing.stepped rfl rfl (Waiting.steps_sent left)
  | acked x rest event now isRead waits =>
    exact nearing.stepped rfl rfl (Waiting.steps_ackedAt waits)
  | ended => exact nearing.tail

/-- Steps are never given back. -/
theorem LineStep.stepsTo_le (step : LineStep line event line')
    (later : ∀ request ∈ acceptedIn [event], handle < request.handle) :
    stepsTo handle line' ≤ stepsTo handle line := by
  have one {x y : Waiting} {rest : List Waiting} (same : y.1.handle = x.1.handle)
      (less : y.steps < x.steps) : stepsTo handle (y :: rest) ≤ stepsTo handle (x :: rest) := by
    by_cases own : x.1.handle ≤ handle
    · rw [stepsTo_cons own, stepsTo_cons (by rwa [same])]
      omega
    · rw [stepsTo_cons_later (Nat.lt_of_not_le own),
        stepsTo_cons_later (by rw [same]; exact Nat.lt_of_not_le own)]
  cases step with
  | same => exact Nat.le_refl _
  | accepted line request =>
    have isLater : handle < request.waiting.1.handle := later request List.mem_cons_self
    rw [stepsTo_append, stepsTo_cons_later isLater]
    exact Nat.le_refl _
  | sent x rest event now isRead left => exact one rfl (Waiting.steps_sent left)
  | acked x rest event now isRead waits => exact one rfl (Waiting.steps_ackedAt waits)
  | ended => exact stepsTo_le_cons

end Kept

/-! ## Runs of the session -/

/-- The line along a run of an open connection. -/
theorem Session.run_line {t u : Session} {events : List Event}
    (run : Trace.Run Session.Step t events u) (isOpen : u.closing = false) :
    Trace.Run LineStep t.queue.line events u.queue.line := by
  induction run with
  | nil => exact .nil _
  | cons first rest ih =>
    refine .cons (first.lineStep ?_) (ih isOpen)
    refine Trace.Run.invariant (fun _ u => u.closing = false → _) id ?_ rest isOpen
    exact fun _ _ _ _ kept step isOpen => kept (step.was_open isOpen)

section Runs

variable {handle : Handle} {turn : Option Timespec} {bound : Nat} {latest : Int}
  {line line' : List Waiting} {events : List Event}

theorem run_timed (run : Trace.Run LineStep line events line') (timed : Timed latest line)
    (readings : ∀ now ∈ readingsIn events, now.Valid ∧ now.nanos ≤ latest) : Timed latest line' := by
  refine Trace.Run.invariant_of_forall (· ∈ events) (fun _ => Timed latest) timed ?_ run
    fun _ isIn => isIn
  intro past line event line' timed isIn step
  exact step.timed timed fun now isRead => readings now (mem_readingsIn.mpr ⟨event, isIn, isRead⟩)

theorem later_of_mem {event : Event} (isIn : event ∈ events)
    (later : ∀ request ∈ acceptedIn events, handle < request.handle) :
    ∀ request ∈ acceptedIn [event], handle < request.handle := by
  intro request isAccepted
  obtain ⟨only, isOnly, isRequest⟩ := List.mem_filterMap.mp isAccepted
  rw [List.mem_singleton.mp isOnly] at isRequest
  exact later request (List.mem_filterMap.mpr ⟨event, isIn, isRequest⟩)

theorem run_nearing (run : Trace.Run LineStep line events line')
    (nearing : Nearing handle turn bound line)
    (later : ∀ request ∈ acceptedIn events, handle < request.handle) :
    Nearing handle turn bound line' := by
  refine Trace.Run.invariant_of_forall (· ∈ events) (fun _ => Nearing handle turn bound) nearing ?_
    run fun _ isIn => isIn
  exact fun past line event line' nearing isIn step => step.nearing nearing (later_of_mem isIn later)

/-- What is to be done for a request does not grow while only later ones are accepted. -/
theorem run_stepsTo (run : Trace.Run LineStep line events line')
    (later : ∀ request ∈ acceptedIn events, handle < request.handle) :
    stepsTo handle line' ≤ stepsTo handle line := by
  refine Trace.Run.invariant_of_forall (· ∈ events)
    (fun _ now => stepsTo handle now ≤ stepsTo handle line) (Nat.le_refl _) ?_ run fun _ isIn => isIn
  intro past now event next fewer isIn step
  exact Nat.le_trans (step.stepsTo_le (later_of_mem isIn later)) fewer

end Runs

end Libmdr
