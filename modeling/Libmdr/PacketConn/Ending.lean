import Libmdr.FrameConn.Ending
import Libmdr.PacketConn.Hidden
import Libmdr.PacketConn.Reading

/-!
# A peer that is gone

`mdr_packetconn_process_by_availability` flushes, sends, and then reads a frame. What comes
before the read does not depend on what there is to read.
-/

namespace Libmdr
set_option autoImplicit false

/-! ## Up to the read -/

section UpToRead

variable (env : Env) (now : Timespec) (writable : Bool) (s : State)

/-- A call that reads does first what a call does that does not read. -/
theorem process_true :
    process env now true writable s =
      (process env now false writable s).bind fun (result, t) =>
        if result < 0 then some (result, t) else receivePart env now t := by
  simp only [process, Option.bind_eq_bind, if_true, Bool.false_eq_true, if_false]
  rcases flushPart writable s with _ | ⟨flushed, s₁⟩
  · rfl
  dsimp only [Option.bind_some]
  split
  · rfl
  rcases sendPart env now writable s₁ with _ | ⟨sent, s₂⟩
  · rfl
  dsimp only [Option.bind_some]
  split <;> rfl

theorem readsFrame_eq :
    readsFrame env now writable s =
      (process env now false writable s).bind fun (result, t) =>
        if result < 0 then none
        else (t.conn.fconn.readFrame t.host).map fun (frame, fconn, host) =>
          (frame, t.afterRead fconn host) := by
  simp only [readsFrame, process, Option.bind_eq_bind, Bool.false_eq_true, if_false]
  rcases flushPart writable s with _ | ⟨flushed, s₁⟩
  · rfl
  dsimp only [Option.bind_some]
  split
  · rfl
  rcases sendPart env now writable s₁ with _ | ⟨sent, s₂⟩
  · rfl
  dsimp only [Option.bind_some]
  split
  · rfl
  · simp only [Option.pure_def, Option.bind_some, Int.lt_irrefl, if_false]
    rcases s₂.conn.fconn.readFrame s₂.host with _ | ⟨frame, fconn, host⟩ <;> rfl

theorem process_false_unread {g : Host → Host} (unread : Host.Unread g) :
    process env now false writable (s.mapHost g) =
      (process env now false writable s).map (Prod.map id (State.mapHost g)) := by
  simp only [process, Option.bind_eq_bind, Bool.false_eq_true, if_false, flushPart_unread unread]
  rcases flushPart writable s with _ | ⟨flushed, s₁⟩
  · rfl
  simp only [Option.map_some, Option.bind_some, Prod.map, id]
  split
  · rfl
  rw [sendPart_unread unread]
  rcases sendPart env now writable s₁ with _ | ⟨sent, s₂⟩
  · rfl
  simp only [Option.map_some, Option.bind_some, Prod.map, id]
  split <;> rfl

end UpToRead

/-- A call that does not read returns 0 or -1 and leaves the read side alone. -/
theorem process_false_reading {env : Env} {now : Timespec} {writable : Bool} {s t : State}
    {result : Int} (run : process env now false writable s = some (result, t)) :
    (result = 0 ∨ result = -1) ∧ s.conn.fconn.SameReading s.host t.conn.fconn t.host := by
  simp only [process, Option.bind_eq_bind, Bool.false_eq_true, if_false,
    Option.bind_eq_some_iff] at run
  obtain ⟨⟨flushed, s₁⟩, flush, run⟩ := run
  have first : Moves env now s s₁ := flushPart_moves flush
  dsimp only at run
  split at run
  · cases run
    exact ⟨.inr rfl, first.noRead.reading⟩
  simp only [Option.bind_eq_some_iff] at run
  obtain ⟨⟨sent, s₂⟩, send, run⟩ := run
  have both : Moves env now s s₂ := first.trans (sendPart_moves send)
  dsimp only at run
  split at run <;> cases run
  · exact ⟨.inr rfl, both.noRead.reading⟩
  · exact ⟨.inl rfl, both.noRead.reading⟩

/-- What a call that reads has done before, and what it finds. -/
theorem readsFrame_split {env : Env} {now : Timespec} {writable : Bool} {s u : State}
    {frame : Option Frame} : readsFrame env now writable s = some (frame, u) ↔
      ∃ t c h, process env now false writable s = some (0, t) ∧
        t.conn.fconn.readFrame t.host = some (frame, c, h) ∧ u = t.afterRead c h := by
  rw [readsFrame_eq, Option.bind_eq_some_iff]
  constructor
  · rintro ⟨⟨result, t⟩, run, found⟩
    obtain rfl | rfl := (process_false_reading run).1
    · obtain ⟨⟨frame, c, h⟩, call, same⟩ := Option.map_eq_some_iff.mp found
      cases same
      exact ⟨t, c, h, run, call, rfl⟩
    · cases found
  · rintro ⟨t, c, h, run, call, rfl⟩
    refine ⟨(0, t), run, ?_⟩
    simp only [Int.lt_irrefl, if_false, call]
    rfl

/-- Only the write buffer differs at the read, and the same is still to be read. -/
theorem process_false_conn {env : Env} {now : Timespec} {writable : Bool} {s t : State}
    {result : Int} (run : process env now false writable s = some (result, t)) :
    t.conn.fconn = { s.conn.fconn with writeBuf := t.conn.fconn.writeBuf } ∧
      s.conn.fconn = { t.conn.fconn with writeBuf := s.conn.fconn.writeBuf } ∧
      t.host.reads = s.host.reads := by
  obtain ⟨-, readBuf, readStarted, input⟩ := process_false_reading run
  refine ⟨?_, ?_, input.reads⟩
  · simp only [← readBuf, ← readStarted]
  · simp only [readBuf, readStarted]

/-! ## The end of the stream -/

theorem Host.unread_endOfStream (n : Nat) : Host.Unread (Host.endOfStream n) where
  errno := fun _ => rfl
  mallocs := fun _ => rfl
  setErrno := fun _ _ => rfl
  setMallocs := fun _ _ => rfl
  write := by
    intro h bytes
    unfold Host.write Host.endOfStream
    rcases h.writes with _ | ⟨_ | _, rest⟩ <;> rfl

/-- The read of a call that has flushed and sent. -/
theorem delivers_at_read {env : Env} {now : Timespec} {writable : Bool} {s t : State}
    {result : Int} (run : process env now false writable s = some (result, t)) :
    s.conn.fconn.Delivers s.host.reads ↔ t.conn.fconn.Delivers t.host.reads := by
  obtain ⟨there, back, reads⟩ := process_false_conn run
  rw [reads]
  constructor
  · intro delivers
    rw [there]
    exact delivers.withWriteBuf _
  · intro delivers
    rw [back]
    exact delivers.withWriteBuf _

end Libmdr
