import Libmdr.PacketConn.Moves
import Libmdr.PacketConn.Refinement

/-!
# The clock

`clock_gettime` gives a second count and fewer than 10^9 nanoseconds. On such
values the three `timespec_*` functions are the order and the arithmetic of the
nanosecond count. Each call of `mdr_packetconn_process_by_availability` reads the
clock once, and what it records carries that reading.
-/

namespace Libmdr
set_option autoImplicit false

/-! ## Time as nanoseconds -/

namespace Timespec

/-- What `clock_gettime` gives. -/
structure Valid (t : Timespec) : Prop where
  nonneg : 0 ≤ t.nsec
  small : t.nsec < 1000000000

instance (t : Timespec) : Decidable t.Valid :=
  decidable_of_iff (0 ≤ t.nsec ∧ t.nsec < 1000000000)
    ⟨fun both => ⟨both.1, both.2⟩, fun valid => ⟨valid.nonneg, valid.small⟩⟩

/-- The time in nanoseconds. -/
def nanos (t : Timespec) : Int := t.sec * 1000000000 + t.nsec

/-- More than one second from `a` to `b`. -/
def MoreThanASecond (a b : Timespec) : Prop := a.nanos + 1000000000 < b.nanos

end Timespec

/-- `timespec_compare` gives the sign of the difference of the nanosecond counts. -/
theorem timespecCompare_eq_sign {a b : Timespec} (validA : a.Valid) (validB : b.Valid) :
    timespecCompare a b = (a.nanos - b.nanos).sign := by
  obtain ⟨nonnegA, smallA⟩ := validA
  obtain ⟨nonnegB, smallB⟩ := validB
  unfold timespecCompare Timespec.nanos
  split
  · exact (Int.sign_eq_neg_one_of_neg (by omega)).symm
  · split
    · exact (Int.sign_eq_one_of_pos (by omega)).symm
    · split
      · exact (Int.sign_eq_neg_one_of_neg (by omega)).symm
      · split
        · exact (Int.sign_eq_one_of_pos (by omega)).symm
        · exact (Int.sign_eq_zero_iff_zero.mpr (by omega)).symm

/-- `timespec_compare` is the order of the nanosecond counts. -/
theorem timespecCompare_pos {a b : Timespec} (validA : a.Valid) (validB : b.Valid) :
    0 < timespecCompare a b ↔ b.nanos < a.nanos := by
  rw [timespecCompare_eq_sign validA validB, Int.sign_pos_iff, Int.sub_pos]

/-- `timespec_sub` is the difference of the nanosecond counts. -/
theorem timespecSub_spec {a b : Timespec} (validA : a.Valid) (validB : b.Valid) :
    (timespecSub a b).Valid ∧ (timespecSub a b).nanos = a.nanos - b.nanos := by
  obtain ⟨nonnegA, smallA⟩ := validA
  obtain ⟨nonnegB, smallB⟩ := validB
  unfold timespecSub Timespec.nanos
  dsimp only
  split
  · refine ⟨⟨?_, ?_⟩, ?_⟩ <;> dsimp only <;> omega
  · refine ⟨⟨?_, ?_⟩, ?_⟩ <;> dsimp only <;> omega

/-- The sum of the nanosecond counts is right whether or not a second is carried. -/
theorem timespecAdd_exact (a b : Timespec) : (timespecAdd a b).nanos = a.nanos + b.nanos := by
  unfold timespecAdd Timespec.nanos
  dsimp only
  split
  · dsimp only
    omega
  · dsimp only
    omega

/-- A sum of exactly a second's nanoseconds is not carried. -/
theorem timespecAdd_valid_iff {a b : Timespec} (validA : a.Valid) (validB : b.Valid) :
    (timespecAdd a b).Valid ↔ a.nsec + b.nsec ≠ 1000000000 := by
  obtain ⟨nonnegA, smallA⟩ := validA
  obtain ⟨nonnegB, smallB⟩ := validB
  unfold timespecAdd
  dsimp only
  split
  · exact iff_of_true ⟨by dsimp only; omega, by dsimp only; omega⟩ (by omega)
  · constructor
    · rintro ⟨-, small⟩ whole
      dsimp only at small
      omega
    · intro other
      exact ⟨by dsimp only; omega, by dsimp only; omega⟩

/-- The ACK timeout is a whole second. -/
theorem timespecAdd_valid {now : Timespec} (valid : now.Valid) :
    (timespecAdd now packetAckTimeout).Valid := by
  have small := valid.small
  refine (timespecAdd_valid_iff valid ⟨by decide, by decide⟩).mpr ?_
  change now.nsec + 0 ≠ 1000000000
  omega

theorem timespecAdd_nanos (now : Timespec) :
    (timespecAdd now packetAckTimeout).nanos = now.nanos + 1000000000 :=
  timespecAdd_exact now packetAckTimeout

/-- Sum and difference are normalised and exact, and `timespec_compare` tells how the sum
stands to any normalised time. -/
structure ExactArithmetic (a b : Timespec) : Prop where
  addValid : (timespecAdd a b).Valid
  addNanos : (timespecAdd a b).nanos = a.nanos + b.nanos
  subValid : (timespecSub a b).Valid
  subNanos : (timespecSub a b).nanos = a.nanos - b.nanos
  compares : ∀ c : Timespec, c.Valid →
    timespecCompare (timespecAdd a b) c = (a.nanos + b.nanos - c.nanos).sign

/-- **The arithmetic of times is exact unless the nanoseconds add up to a second.** -/
theorem exactArithmetic_iff {a b : Timespec} (validA : a.Valid) (validB : b.Valid) :
    ExactArithmetic a b ↔ a.nsec + b.nsec ≠ 1000000000 := by
  constructor
  · intro exact
    exact (timespecAdd_valid_iff validA validB).mp exact.addValid
  · intro other
    have sumValid := (timespecAdd_valid_iff validA validB).mpr other
    have sum := timespecAdd_exact a b
    obtain ⟨subValid, subNanos⟩ := timespecSub_spec validA validB
    refine ⟨sumValid, sum, subValid, subNanos, fun c validC => ?_⟩
    rw [timespecCompare_eq_sign sumValid validC, sum]

/-- `exactArithmetic_iff` on a sum that is carried. -/
theorem exactArithmetic_iff_carried :
    ExactArithmetic ⟨1, 600000000⟩ ⟨2, 700000000⟩ ↔ (600000000 : Int) + 700000000 ≠ 1000000000 :=
  exactArithmetic_iff ⟨by decide, by decide⟩ ⟨by decide, by decide⟩

/-- Half a second and half a second is no normalised second. -/
theorem not_exactArithmetic_half_seconds :
    ¬ ∀ a b : Timespec, a.Valid → b.Valid → ExactArithmetic a b := by
  intro always
  have valid : Timespec.Valid ⟨0, 500000000⟩ := ⟨by decide, by decide⟩
  have sum := (always _ _ valid valid).addValid.small
  exact absurd sum (by decide)

/-! ## The readings in the record -/

/-- The clock reading of the call that records an event. -/
def Event.reading : Event → Option Timespec
  | .wrote _ _ now | .expired now | .received _ _ now => some now
  | _ => none

/-- The clock readings in a record. -/
def readingsIn (events : List Event) : List Timespec := events.filterMap Event.reading

/-- The clock readings of the calls of a run. -/
def readings (calls : List Call) : List Timespec :=
  calls.filterMap fun
    | .process now _ _ => some now
    | .user _ => none

/-- Where the frame in an event comes from: that of a new request from a packet, an ACK
from `ack_frame`. -/
def Event.Sourced : Event → Prop
  | .accepted request => request.frame.Made
  | .wroteAck frame _ => ∃ received, frame = ackFrame received
  | _ => True

/-- An event of a call at `now`: its reading is `now`, and the frame in it is one that
the library made. -/
structure Event.Genuine (now : Timespec) (event : Event) : Prop where
  reading : ∀ t, event.reading = some t → t = now
  sourced : event.Sourced

theorem Event.Genuine.at_now {now : Timespec} {event : Event} (reading : event.reading = some now)
    (sourced : event.Sourced) : event.Genuine now :=
  ⟨fun _ same => Option.some.inj (same.symm.trans reading), sourced⟩

theorem Event.Genuine.timeless {now : Timespec} {event : Event} (reading : event.reading = none)
    (sourced : event.Sourced) : event.Genuine now :=
  ⟨fun t same => absurd (reading.symm.trans same) (Option.some_ne_none t).symm, sourced⟩

/-- What a call at `now` has added to the record. -/
def State.Appends (now : Timespec) (s s' : State) : Prop :=
  ∃ events, s'.log = s.log ++ events ∧ ∀ event ∈ events, event.Genuine now

namespace State.Appends

variable {now : Timespec}

theorem of_log {s s' : State} (log : s'.log = s.log) : s.Appends now s' :=
  ⟨[], by rw [log, List.append_nil], fun _ isIn => by cases isIn⟩

theorem trans {s t u : State} (front : s.Appends now t) (back : t.Appends now u) :
    s.Appends now u := by
  obtain ⟨xs, log, early⟩ := front
  obtain ⟨ys, log', late⟩ := back
  refine ⟨xs ++ ys, by rw [log', log, List.append_assoc], ?_⟩
  intro event isIn
  exact (List.mem_append.mp isIn).elim (early event) (late event)

/-- One event, and changes that are not recorded. -/
theorem event {s s' : State} {event : Event} (log : s'.log = s.log ++ [event])
    (genuine : event.Genuine now) : s.Appends now s' := by
  refine ⟨[event], log, ?_⟩
  intro event' isIn
  rw [List.mem_singleton.mp isIn]
  exact genuine

theorem of_added {s s' : State} {new : List Request} (added : Added s new s') :
    s.Appends now s' := by
  refine ⟨new.map .accepted, added.log, ?_⟩
  intro event isIn
  obtain ⟨request, isNew, rfl⟩ := List.mem_map.mp isIn
  exact .timeless rfl (added.made request isNew)

end State.Appends

theorem Event.Own.genuine {now : Timespec} {event : Event} (own : event.Own now) :
    event.Genuine now := by
  cases event with
  | accepted request => exact own.elim
  | wrote | expired | received =>
    obtain rfl := own
    exact .at_now rfl trivial
  | wroteAck frame result => exact .timeless rfl own
  | _ => exact .timeless rfl trivial

/-! ## One call -/

theorem Act.appends {env : Env} {now : Timespec} {s s' : State} (act : Act env now s s') :
    s.Appends now s' := by
  cases act with
  | read frame fconn host run => exact .of_log rfl
  | move move =>
    cases move with
    | record event own => exact .event rfl own.genuine
    | user c run =>
      obtain ⟨new, added⟩ := userCall_added run
      exact .of_added added
    | host | queue | advance | counted => exact .of_log rfl

theorem Acts.appends {env : Env} {now : Timespec} {s s' : State} (acts : Acts env now s s') :
    s.Appends now s' := by
  induction acts with
  | refl => exact .of_log rfl
  | tail _ last ih => exact ih.trans last.appends

/-! ## Runs -/

/-- Readings of a clock that does not run backwards. -/
structure Clocked (ts : List Timespec) : Prop where
  valid : ∀ t ∈ ts, t.Valid
  forward : ts.Pairwise fun a b => a.nanos ≤ b.nanos

/-- What the record of a run holds: readings of its calls, in their order, and frames
that the library made. -/
structure Recorded (calls : List Call) (events : List Event) : Prop where
  readings : ∀ t ∈ readingsIn events, t ∈ readings calls
  forward : (Libmdr.readings calls).Pairwise (fun a b => a.nanos ≤ b.nanos) →
    (readingsIn events).Pairwise fun a b => a.nanos ≤ b.nanos
  sourced : ∀ event ∈ events, event.Sourced

theorem readingsIn_append (xs ys : List Event) :
    readingsIn (xs ++ ys) = readingsIn xs ++ readingsIn ys := List.filterMap_append

theorem mem_readingsIn {events : List Event} {t : Timespec} :
    t ∈ readingsIn events ↔ ∃ event ∈ events, event.reading = some t := List.mem_filterMap

/-- All readings of one call are the same. -/
theorem readingsIn_genuine {now : Timespec} {events : List Event}
    (genuine : ∀ event ∈ events, event.Genuine now) : ∀ t ∈ readingsIn events, t = now := by
  intro t isIn
  obtain ⟨event, isEvent, same⟩ := mem_readingsIn.mp isIn
  exact (genuine event isEvent).reading t same

/-- A call from outside. User code has no reading, so it may be given any. -/
theorem call_appends {env : Env} {s s' : State} {c : Call} (ran : call env s c = some s') :
    ∃ events, s'.log = s.log ++ events ∧ Recorded [c] events := by
  cases c with
  | user c =>
    obtain ⟨new, added⟩ := userCall_added ran
    have none : readingsIn (new.map .accepted) = [] := by
      rw [readingsIn, List.filterMap_map]
      exact List.filterMap_eq_nil_iff.mpr fun _ _ => rfl
    refine ⟨new.map .accepted, added.log, ?_, ?_, ?_⟩
    · rw [none]
      exact fun _ isIn => by cases isIn
    · rw [none]
      exact fun _ => .nil
    · intro event isIn
      obtain ⟨request, isNew, rfl⟩ := List.mem_map.mp isIn
      exact added.made request isNew
  | process now readable writable =>
    obtain ⟨⟨result, t⟩, processed, rfl⟩ := Option.map_eq_some_iff.mp ran
    obtain ⟨events, log, genuine⟩ := (process_acts processed).appends
    have same := readingsIn_genuine genuine
    refine ⟨events, log, ?_, ?_, ?_⟩
    · intro t isIn
      rw [same t isIn]
      exact List.mem_singleton.mpr rfl
    · intro _
      apply List.pairwise_of_forall_mem_list
      intro a isA b isB
      exact Int.le_of_eq (congrArg Timespec.nanos ((same a isA).trans (same b isB).symm))
    · exact fun event isIn => (genuine event isIn).sourced

theorem run_recorded {env : Env} {calls : List Call} {s s' : State}
    (ran : run env calls s = some s') :
    ∃ events, s'.log = s.log ++ events ∧ Recorded calls events := by
  induction calls generalizing s with
  | nil =>
    cases ran
    refine ⟨[], (List.append_nil _).symm, ?_, fun _ => .nil, ?_⟩ <;>
      exact fun _ isIn => by cases isIn
  | cons c rest ih =>
    rw [run, List.foldlM_cons, Option.bind_eq_bind, Option.bind_eq_some_iff] at ran
    obtain ⟨t, first, later⟩ := ran
    obtain ⟨xs, log, front⟩ := call_appends first
    obtain ⟨ys, log', back⟩ := ih later
    have split : readings (c :: rest) = readings [c] ++ readings rest := by
      rw [readings, ← List.singleton_append, List.filterMap_append]
      rfl
    refine ⟨xs ++ ys, by rw [log', log, List.append_assoc], ?_, ?_, ?_⟩
    · intro t isIn
      rw [readingsIn_append] at isIn
      rw [split]
      rcases List.mem_append.mp isIn with early | late
      · exact List.mem_append_left _ (front.readings t early)
      · exact List.mem_append_right _ (back.readings t late)
    · rw [split, readingsIn_append]
      intro forward
      obtain ⟨early, late, across⟩ := List.pairwise_append.mp forward
      refine List.pairwise_append.mpr ⟨front.forward early, back.forward late, ?_⟩
      exact fun a isA b isB => across a (front.readings a isA) b (back.readings b isB)
    · intro event isIn
      exact (List.mem_append.mp isIn).elim (front.sourced event) (back.sourced event)

/-- The record of a run, as a run of the session and as what its calls recorded. -/
theorem run_log {env : Env} {calls : List Call} {fconn : FrameConn} {host : Host} {s : State}
    (ran : run env calls (State.start fconn host) = some s) :
    Records (State.start fconn host) false s.log s false ∧ Recorded calls s.log := by
  obtain ⟨events, records⟩ := run_records ran
  obtain ⟨events', log, recorded⟩ := run_recorded ran
  have same : s.log = events := records.log
  have same' : s.log = events' := log
  rw [← same] at records
  rw [← same'] at recorded
  exact ⟨records, recorded⟩

theorem Recorded.clocked {calls : List Call} {events : List Event} (recorded : Recorded calls events)
    (clocked : Clocked (Libmdr.readings calls)) : Clocked (readingsIn events) where
  valid := fun t isIn => clocked.valid t (recorded.readings t isIn)
  forward := recorded.forward clocked.forward

/-- The last reading is valid, and none was later. -/
theorem Clocked.last {events : List Event} {event : Event} {now : Timespec}
    (clocked : Clocked (readingsIn (events ++ [event]))) (reading : event.reading = some now) :
    now.Valid ∧ ∀ t ∈ readingsIn events, t.nanos ≤ now.nanos := by
  have one : readingsIn [event] = [now] := by
    rw [readingsIn, List.filterMap_cons_some reading]
    rfl
  obtain ⟨valid, forward⟩ := clocked
  rw [readingsIn_append, one] at valid forward
  constructor
  · exact valid now (List.mem_append_right _ List.mem_cons_self)
  · intro t isIn
    exact (List.pairwise_append.mp forward).2.2 t isIn now List.mem_cons_self

theorem Clocked.of_append {xs ys : List Event} (clocked : Clocked (readingsIn (xs ++ ys))) :
    Clocked (readingsIn xs) := by
  obtain ⟨valid, forward⟩ := clocked
  rw [readingsIn_append] at valid forward
  exact ⟨fun t isIn => valid t (List.mem_append_left _ isIn), (List.pairwise_append.mp forward).1⟩

end Libmdr
