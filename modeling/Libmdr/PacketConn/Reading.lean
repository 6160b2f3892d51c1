import Libmdr.PacketConn.Moves

/-!
# The one read of a call

`mdr_packetconn_process_by_availability` reads at most one frame, between sending
and acting on the frame. Everything else it does leaves the read side of the
connection alone, and changes the subscriptions only through user code, which
adds new ones at the end and removes some.
-/

namespace Libmdr
set_option autoImplicit false

/-! ## What happens without a read -/

/-- The subscriptions are listed in the order in which they were made. -/
structure State.Ordered (s : State) : Prop where
  increasing : s.conn.subscriptions.Pairwise fun a b => a.handle < b.handle
  bounded : ∀ subscription ∈ s.conn.subscriptions, subscription.handle < s.nextHandle

/-- From one state to another nothing was read, and subscriptions were only added
at the end and removed. -/
structure State.NoRead (s t : State) : Prop where
  reading : s.conn.fconn.SameReading s.host t.conn.fconn t.host
  mono : s.nextHandle ≤ t.nextHandle
  ordered : s.Ordered → t.Ordered
  old : ∀ subscription ∈ t.conn.subscriptions, subscription.handle < s.nextHandle →
    subscription ∈ s.conn.subscriptions

namespace State.NoRead

/-- Two stretches without a read are one. -/
theorem trans {s t u : State} (front : s.NoRead t) (back : t.NoRead u) : s.NoRead u where
  reading := front.reading.trans back.reading
  mono := Nat.le_trans front.mono back.mono
  ordered := fun ordered => back.ordered (front.ordered ordered)
  old := fun subscription isIn early =>
    front.old subscription (back.old subscription isIn (Nat.lt_of_lt_of_le early front.mono)) early

/-- A step that leaves the subscriptions alone. -/
theorem of_reading {s t : State} (reading : s.conn.fconn.SameReading s.host t.conn.fconn t.host)
    (subscriptions : t.conn.subscriptions = s.conn.subscriptions)
    (mono : s.nextHandle ≤ t.nextHandle) : s.NoRead t where
  reading := reading
  mono := mono
  ordered := by
    rintro ⟨increasing, bounded⟩
    constructor
    · rwa [subscriptions]
    · rw [subscriptions]
      exact fun subscription isIn => Nat.lt_of_lt_of_le (bounded subscription isIn) mono
  old := by
    rw [subscriptions]
    exact fun subscription isIn _ => isIn

theorem refl (s : State) : s.NoRead s := of_reading (.refl _ _) rfl (Nat.le_refl _)

/-- The record, the queue, the callback count and errno do not matter. -/
theorem of_same {s t : State} (fconn : t.conn.fconn = s.conn.fconn)
    (subscriptions : t.conn.subscriptions = s.conn.subscriptions)
    (mono : s.nextHandle ≤ t.nextHandle) (input : s.host.SameInput t.host) : s.NoRead t := by
  refine of_reading ?_ subscriptions mono
  rw [fconn]
  exact .of_input input

theorem record (s : State) (events : List Event) : s.NoRead (s.record events) :=
  of_same rfl rfl (Nat.le_refl _) (.refl _)

end State.NoRead

/-! ## User code -/

theorem makeRequest_noRead {env : Env} {packet : Packet} {spec : ReplySpecifier}
    {callbacks : Callbacks} {s s' : State} {handle : Option Handle}
    (run : makeRequest env packet spec callbacks s = some (handle, s')) : s.NoRead s' := by
  simp only [makeRequest, Option.bind_eq_bind, Option.bind_eq_some_iff] at run
  obtain ⟨⟨frame, host⟩, made, run⟩ := run
  have input := Packet.toFrame_sameInput made
  cases frame with
  | none =>
    cases run
    exact .of_same rfl rfl (Nat.le_refl _) input
  | some frame =>
    dsimp only at run
    split at run <;> rename_i allocated <;> have input := input.trans (Host.malloc_sameInput allocated)
    · cases run
      exact .of_same rfl rfl (Nat.le_refl _) input
    · cases run
      exact .of_same rfl rfl (Nat.le_succ _) input

theorem subscribe_noRead (env : Env) (spec : ReplySpecifier) (result : Option FnPtr)
    (userData : Nat) (s : State) : s.NoRead (subscribe env spec result userData s).2 := by
  unfold subscribe
  split <;> rename_i allocated <;> have input := Host.malloc_sameInput allocated
  · exact .of_same rfl rfl (Nat.le_refl _) input
  · refine ⟨.of_input input, Nat.le_succ _, ?_, ?_⟩
    · rintro ⟨increasing, bounded⟩
      constructor
      · refine List.pairwise_append.mpr ⟨increasing, List.pairwise_singleton _ _, ?_⟩
        intro a isIn b isNew
        rw [List.mem_singleton.mp isNew]
        exact bounded a isIn
      · intro subscription isIn
        rcases List.mem_append.mp isIn with old | new
        · exact Nat.lt_succ_of_lt (bounded subscription old)
        · rw [List.mem_singleton.mp new]
          exact Nat.lt_succ_self _
    · intro subscription isIn early
      rcases List.mem_append.mp isIn with old | new
      · exact old
      · rw [List.mem_singleton.mp new] at early
        exact absurd early (Nat.lt_irrefl _)

theorem removeSubscription_noRead (handle : Handle) (s : State) :
    s.NoRead (removeSubscription handle s) where
  reading := .refl _ _
  mono := Nat.le_refl _
  ordered := fun ⟨increasing, bounded⟩ =>
    ⟨increasing.sublist List.eraseP_sublist,
      fun subscription isIn => bounded subscription (List.mem_of_mem_eraseP isIn)⟩
  old := fun _ isIn _ => List.mem_of_mem_eraseP isIn

/-- User code does not read. -/
theorem userCall_noRead {env : Env} {s s' : State} {c : UserCall}
    (run : userCall env s c = some s') : s.NoRead s' := by
  cases c with
  | makeRequest packet spec callbacks =>
    obtain ⟨⟨handle, t⟩, made, rfl⟩ := Option.map_eq_some_iff.mp run
    exact makeRequest_noRead made
  | subscribe spec result userData =>
    cases run
    exact subscribe_noRead env spec result userData s
  | removeSubscription handle =>
    cases run
    exact removeSubscription_noRead handle s

/-! ## The parts of a call -/

/-- **Of all acts only reads read.** One case for each kind of move. -/
theorem Move.noRead {env : Env} {now : Timespec} {s s' : State} (move : Move env now s s') :
    s.NoRead s' := by
  cases move with
  | host fconn host same => exact .of_reading same rfl (Nat.le_refl _)
  | user c run => exact userCall_noRead run
  | record | queue | advance | counted => exact .of_same rfl rfl (Nat.le_refl _) (.refl _)

theorem Moves.noRead {env : Env} {now : Timespec} {s s' : State} (moves : Moves env now s s') :
    s.NoRead s' := by
  induction moves with
  | refl => exact .refl s
  | tail _ last ih => exact ih.trans last.noRead

theorem notify_noRead {env : Env} {packet : Packet} {node : Subscription} {s s' : State}
    (run : notify env packet node s = some s') : s.NoRead s' := by
  have moves : Moves env ⟨0, 0⟩ s s' := notify_moves run
  exact moves.noRead

theorem dispatch_noRead {env : Env} {packet : Packet} {rounds : Nat} {handle : Option Handle}
    {s s' : State} (run : dispatch env packet rounds handle s = some s') : s.NoRead s' := by
  have moves : Moves env ⟨0, 0⟩ s s' := dispatch_moves run
  exact moves.noRead

/-! ## The frame that a call reads -/

/-- A call of `process` up to the frame it reads: the frame (`none` when there is
none), and the state in which it is acted on. -/
def readsFrame (env : Env) (now : Timespec) (writable : Bool) (s : State) :
    Option (Option Frame × State) := do
  let (result, s) ← flushPart writable s
  if result < 0 then none
  else
    let (result, s) ← sendPart env now writable s
    if result < 0 then none
    else
      let (frame, fconn, host) ← s.conn.fconn.readFrame s.host
      return (frame, { s with conn := { s.conn with fconn }, host })

/-- A call acts on the frame that it reads. -/
theorem process_of_readsFrame {env : Env} {now : Timespec} {writable : Bool} {s t : State}
    {frame : Frame} (reads : readsFrame env now writable s = some (some frame, t)) :
    process env now true writable s = receiveFrame env now frame t := by
  simp only [readsFrame, Option.bind_eq_bind, Option.bind_eq_some_iff] at reads
  obtain ⟨⟨flushed, s₁⟩, flush, reads⟩ := reads
  dsimp only at reads
  split at reads
  · cases reads
  · rename_i goesOn
    simp only [Option.bind_eq_some_iff] at reads
    obtain ⟨⟨sent, s₂⟩, send, reads⟩ := reads
    dsimp only at reads
    split at reads
    · cases reads
    · rename_i goesOn'
      simp only [Option.bind_eq_some_iff] at reads
      obtain ⟨⟨found, fconn, host⟩, read, reads⟩ := reads
      cases reads
      simp only [process, flush, Option.bind_eq_bind, Option.bind_some, goesOn, if_false, send,
        goesOn', if_true, receivePart, read]

/-- What a call does up to the frame that it reads. -/
theorem readsFrame_acts {env : Env} {now : Timespec} {writable : Bool} {s t : State}
    {frame : Option Frame} (reads : readsFrame env now writable s = some (frame, t)) :
    Acts env now s t := by
  simp only [readsFrame, Option.bind_eq_bind, Option.bind_eq_some_iff] at reads
  obtain ⟨⟨flushed, s₁⟩, flush, reads⟩ := reads
  dsimp only at reads
  split at reads
  · cases reads
  · simp only [Option.bind_eq_some_iff] at reads
    obtain ⟨⟨sent, s₂⟩, send, reads⟩ := reads
    dsimp only at reads
    split at reads
    · cases reads
    · simp only [Option.bind_eq_some_iff] at reads
      obtain ⟨⟨found, fconn, host⟩, read, reads⟩ := reads
      cases reads
      exact .tail ((flushPart_moves flush).acts.trans (sendPart_moves send).acts) (.read _ _ _ read)

/-! ## Invariants of the read side -/

/-- What is kept without a read and by `mdr_frameconn_read_frame`. -/
structure ReadInvariant (holds : State → Prop) : Prop where
  noRead : ∀ s t, s.NoRead t → holds s → holds t
  read : ∀ s frame fconn host, s.conn.fconn.readFrame s.host = some (frame, fconn, host) →
    holds s → holds (s.afterRead fconn host)

namespace ReadInvariant

variable {holds : State → Prop} (invariant : ReadInvariant holds)
include invariant

/-- An invariant of moves and reads holds behind a call. The induction is on its acts. -/
theorem acts {env : Env} {now : Timespec} {s t : State} (acts : Acts env now s t)
    (start : holds s) : holds t := by
  induction acts with
  | refl => exact start
  | tail _ last ih =>
    cases last with
    | move move => exact invariant.noRead _ _ move.noRead ih
    | read frame fconn host run => exact invariant.read _ frame fconn host run ih

/-- The rule for a call of `process`. -/
theorem process {env : Env} {now : Timespec} {readable writable : Bool} {s s' : State}
    {result : Int} (run : Libmdr.process env now readable writable s = some (result, s'))
    (start : holds s) : holds s' :=
  invariant.acts (process_acts run) start

theorem call {env : Env} {s s' : State} {c : Call} (run : Libmdr.call env s c = some s')
    (start : holds s) : holds s' := by
  cases c with
  | user c => exact invariant.noRead _ _ (userCall_noRead run) start
  | process now readable writable =>
    obtain ⟨⟨result, t⟩, processed, rfl⟩ := Option.map_eq_some_iff.mp run
    exact invariant.process processed start

/-- **The rule for runs.** -/
theorem run {env : Env} {calls : List Call} {s s' : State}
    (finished : Libmdr.run env calls s = some s') (start : holds s) : holds s' :=
  Trace.foldlM_invariant holds (fun _ _ _ => invariant.call) finished start

theorem readsFrame {env : Env} {now : Timespec} {writable : Bool} {s t : State}
    {frame : Option Frame} (reads : Libmdr.readsFrame env now writable s = some (frame, t))
    (start : holds s) : holds t :=
  invariant.acts (readsFrame_acts reads) start

end ReadInvariant

/-- The order of the subscriptions is an invariant. -/
theorem ordered_invariant : ReadInvariant State.Ordered where
  noRead := fun _ _ noRead ordered => noRead.ordered ordered
  read := fun _ _ _ _ _ ordered => ⟨ordered.increasing, ordered.bounded⟩

theorem ordered_start (fconn : FrameConn) (host : Host) : (State.start fconn host).Ordered where
  increasing := .nil
  bounded := fun _ isIn => by cases isIn

end Libmdr
