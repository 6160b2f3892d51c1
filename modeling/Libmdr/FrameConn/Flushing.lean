import Libmdr.FrameConn.Blocking

/-!
# Flushing the write buffer

What `mdr_frameconn_flush_write` makes of the pending bytes, from the outcomes of its
`write` calls. The index into the buffer never moves, so a byte that the socket accepts is
offered again, and only an error ends a call that found bytes pending.
-/

namespace Libmdr
set_option autoImplicit false

namespace Host

/-- A `write` fails for good. -/
def fails : List WriteOutcome → Bool
  | [] => false
  | .wrote _ :: rest => fails rest
  | .err e :: rest => e ≠ eintr || fails rest

/-- Outcomes that cover some bytes of which none is accepted end with an error. -/
theorem fails_of_endsWithin {n : Nat} {outcomes : List WriteOutcome}
    (ends : endsWithin (n + 1) outcomes = true) (nothing : acceptsFirst outcomes = false) :
    fails outcomes = true := by
  induction outcomes with
  | nil => cases ends
  | cons outcome rest ih =>
    cases outcome with
    | wrote k =>
      by_cases none : k = 0
      · rw [none] at ends nothing
        exact ih ends nothing
      · rw [acceptsFirst, if_neg none] at nothing
        cases nothing
    | err e =>
      by_cases interrupted : e = eintr
      · rw [endsWithin, if_pos interrupted] at ends
        rw [acceptsFirst, if_pos interrupted] at nothing
        rw [fails, ih ends nothing, Bool.or_true]
      · rw [fails, decide_eq_true interrupted, Bool.true_or]

/-- Outcomes with an error cover any number of bytes. -/
theorem endsWithin_of_fails {outcomes : List WriteOutcome} (failed : fails outcomes = true)
    (n : Nat) : endsWithin n outcomes = true := by
  induction outcomes generalizing n with
  | nil => cases failed
  | cons outcome rest ih =>
    cases n with
    | zero => rfl
    | succ n =>
      cases outcome with
      | wrote k => exact ih failed _
      | err e =>
        rw [endsWithin]
        split
        · rename_i interrupted
          rw [fails, decide_eq_false (not_not.mpr interrupted), Bool.false_or] at failed
          exact ih failed _
        · rfl

end Host

namespace FrameConn

/-- One call hands over each pending byte once: it returns when the outcomes cover the
pending bytes, what the socket accepts followed by what is still pending is what was
pending, and 0 says that nothing is. -/
structure FlushesOnce (c : FrameConn) (h : Host) : Prop where
  returns : Host.endsWithin c.writeBuf.length h.writes = true → (flushWrite c h).isSome
  once : ∀ result c' h', flushWrite c h = some (result, c', h') →
    ∃ sent, h'.wire = h.wire ++ sent ∧ sent ++ c'.writeBuf = c.writeBuf
  zero : ∀ result c' h', flushWrite c h = some (result, c', h') → (result = 0 ↔ c'.writeBuf = [])

/-- Bytes are pending, and the socket accepts some before a `write` fails. -/
structure Accepts (c : FrameConn) (h : Host) : Prop where
  pending : c.writeBuf ≠ []
  covers : Host.endsWithin c.writeBuf.length h.writes = true
  accepts : Host.acceptsFirst h.writes = true

/-- With bytes pending only an error ends a flush. -/
theorem flushWrite_isSome {c : FrameConn} {h : Host} (pending : c.writeBuf ≠ []) :
    (flushWrite c h).isSome = Host.fails h.writes := by
  have waiting : 0 < c.writeBuf.length := List.length_pos_iff.mpr pending
  unfold flushWrite
  fun_induction flushWriteLoop 0 c h with
  | case1 h more ended =>
    rw [Host.write_eq_none ended]
    rfl
  | case2 h more n h₁ wrote ih =>
    obtain ⟨-, -, k, writes, -⟩ := Host.write_ok wrote
    rw [ih, writes, Host.fails]
  | case3 h more h₁ interrupted ih =>
    rw [ih, (Host.write_error interrupted).2.2, Host.fails, decide_eq_false (not_not.mpr rfl),
      Bool.false_or]
  | case4 h more e h₁ failed other advanced => exact absurd advanced (Nat.lt_irrefl 0)
  | case5 h more e h₁ failed other unmoved =>
    rw [(Host.write_error failed).2.2, Host.fails, decide_eq_true other, Bool.true_or]
    rfl
  | case6 h done => exact absurd waiting done

/-- Whether a flush that returns has given the socket a byte can be read off the outcomes. -/
theorem flushWrite_accepts {c c' : FrameConn} {h h' : Host} {result : Int}
    (pending : c.writeBuf ≠ []) (run : flushWrite c h = some (result, c', h')) :
    ∃ sent, h'.wire = h.wire ++ sent ∧ (Host.acceptsFirst h.writes = true ↔ sent ≠ []) := by
  have waiting : 0 < c.writeBuf.length := List.length_pos_iff.mpr pending
  unfold flushWrite at run
  fun_induction flushWriteLoop 0 c h with
  | case1 => cases run
  | case2 h more n h₁ wrote ih =>
    obtain ⟨later, wire, accepts⟩ := ih run
    obtain ⟨-, wire₁, k, writes, rfl⟩ := Host.write_ok wrote
    refine ⟨c.writeBuf.take (min k c.writeBuf.length) ++ later, ?_, ?_⟩
    · rw [wire, wire₁, List.append_assoc]
      rfl
    · rw [writes, Host.acceptsFirst]
      by_cases nothing : k = 0
      · rw [if_pos nothing, nothing, Nat.zero_min, List.take_zero, List.nil_append]
        exact accepts
      · rw [if_neg nothing, Ne, List.append_eq_nil_iff, List.take_eq_nil_iff]
        exact iff_of_true rfl fun both => both.1.elim (by omega) pending
  | case3 h more h₁ interrupted ih =>
    obtain ⟨later, wire, accepts⟩ := ih run
    obtain ⟨wire₁, -, writes⟩ := Host.write_error interrupted
    refine ⟨later, by rw [wire, wire₁], ?_⟩
    rw [writes, Host.acceptsFirst, if_pos rfl]
    exact accepts
  | case4 h more e h₁ failed other advanced => exact absurd advanced (Nat.lt_irrefl 0)
  | case5 h more e h₁ failed other unmoved =>
    cases run
    obtain ⟨wire, -, writes⟩ := Host.write_error failed
    refine ⟨[], by rw [wire, List.append_nil], ?_⟩
    rw [writes, Host.acceptsFirst, if_neg other]
    exact iff_of_false Bool.false_ne_true fun some => some rfl
  | case6 h done => exact absurd waiting done

/-- A flush of an empty buffer, and one of which no byte is accepted. -/
theorem flushesOnce_of {c : FrameConn} {h : Host} (untouched : ¬ Accepts c h) :
    FlushesOnce c h := by
  by_cases none : c.writeBuf = []
  · have empty := flushWrite_empty (h := h) none
    refine ⟨fun _ => by rw [empty]; rfl, ?_, ?_⟩ <;> intro result c' h' run <;>
      rw [empty] at run <;> cases run
    · exact ⟨[], (List.append_nil _).symm, rfl⟩
    · exact iff_of_true rfl none
  · obtain ⟨n, length⟩ : ∃ n, c.writeBuf.length = n + 1 :=
      Nat.exists_eq_succ_of_ne_zero fun zero => none (List.eq_nil_of_length_eq_zero zero)
    refine ⟨fun covers => ?_, ?_, ?_⟩
    · rw [flushWrite_isSome none]
      have nothing : Host.acceptsFirst h.writes = false :=
        Bool.eq_false_iff.mpr fun accepts => untouched ⟨none, covers, accepts⟩
      rw [length] at covers
      exact Host.fails_of_endsWithin covers nothing
    · intro result c' h' run
      have returned : (flushWrite c h).isSome := by rw [run]; rfl
      rw [flushWrite_isSome none] at returned
      obtain ⟨sent, wire, accepts⟩ := flushWrite_accepts none run
      have nothing : sent = [] := by
        by_contra some
        exact untouched ⟨none, Host.endsWithin_of_fails returned _, accepts.mpr some⟩
      rw [nothing] at wire
      exact ⟨[], wire, by rw [(flushWrite_pending none run).2.1, List.nil_append]⟩
    · intro result c' h' run
      obtain ⟨failed, same, -⟩ := flushWrite_pending none run
      rw [failed, same]
      exact iff_of_false (by decide) none

/-- An accepted byte stays pending, and the call does not return without an error. -/
theorem not_flushesOnce {c : FrameConn} {h : Host} (accepts : Accepts c h) :
    ¬ FlushesOnce c h := by
  intro flushes
  obtain ⟨⟨result, c', h'⟩, run⟩ := Option.isSome_iff_exists.mp (flushes.returns accepts.covers)
  obtain ⟨sent, wire, isSent⟩ := flushWrite_accepts accepts.pending run
  obtain ⟨sent', wire', whole⟩ := flushes.once result c' h' run
  rw [(flushWrite_pending accepts.pending run).2.1, List.append_left_eq_self] at whole
  rw [wire, whole] at wire'
  exact isSent.mp accepts.accepts (List.append_cancel_left wire')

/-- **A flush hands over each pending byte once only when the socket accepts none.** -/
theorem flushesOnce_iff (c : FrameConn) (h : Host) : FlushesOnce c h ↔ ¬ Accepts c h :=
  ⟨fun flushes accepts => not_flushesOnce accepts flushes, flushesOnce_of⟩

/-- Two pending bytes that the socket accepts at once: the call goes on with the same two. -/
theorem not_flushesOnce_two_bytes :
    ¬ FlushesOnce { fresh with writeBuf := [0x00, 0x3c] } (writing [.wrote 2]) :=
  not_flushesOnce ⟨by decide, by decide, by decide⟩

/-! ## When a write returns -/

/-- The calls of `write` in `mdr_frameconn_write_frame` come to an end: with bytes pending the
flush fails, and where the frame is written it is accepted whole or that fails. -/
structure WriteEnds (heap : Heap) (c : FrameConn) (h : Host) (frame : Frame) : Prop where
  flush : c.writeBuf ≠ [] → Host.fails h.writes = true
  loop : Tried heap c h frame → ∀ outcomes, frameOutcomes c h.writes = some outcomes →
    Host.endsWithin (escaped frame).length outcomes = true

theorem flushWrite_isSome_iff {c : FrameConn} {h : Host} :
    (flushWrite c h).isSome ↔ (c.writeBuf ≠ [] → Host.fails h.writes = true) := by
  by_cases isEmpty : c.writeBuf = []
  · rw [flushWrite_empty isEmpty]
    exact iff_of_true rfl fun pending => absurd isEmpty pending
  · rw [flushWrite_isSome isEmpty]
    exact ⟨fun fails _ => fails, fun fails => fails isEmpty⟩

/-- `mdr_frameconn_write_frame` returns exactly when its calls of `write` come to an end. -/
theorem writeFrame_isSome_iff {heap : Heap} {c : FrameConn} {h : Host} {frame : Frame} :
    (writeFrame heap c h frame).isSome ↔ WriteEnds heap c h frame := by
  constructor
  · intro returns
    obtain ⟨⟨result, c', h'⟩, run⟩ := Option.isSome_iff_exists.mp returns
    obtain ⟨flushed, h₁, flush, ending⟩ := writeFrame_cases run
    refine ⟨flushWrite_isSome_iff.mp (Option.isSome_of_eq_some flush), fun tried outcomes left => ?_⟩
    obtain ⟨untried, -⟩ | ⟨h₂, -, -, rest, loop⟩ := ending
    · exact absurd ⟨tried, Option.isSome_of_eq_some left⟩ untried
    · obtain rfl := Option.some.inj (rest.symm.trans left)
      have ends := writeFrameLoop_isSome (escaped frame) 0 c h₂
      rw [loop, Nat.sub_zero] at ends
      exact ends.symm
  · intro ends
    obtain ⟨⟨flushed, c₁, h₁⟩, flush⟩ :=
      Option.isSome_iff_exists.mp (flushWrite_isSome_iff.mpr ends.flush)
    obtain ⟨rfl, mallocs, outcomes⟩ := frameOutcomes_of_flush flush
    simp only [writeFrame, flush, Option.bind_eq_bind, Option.bind_some]
    split
    · rfl
    rename_i goesOn
    rw [if_neg goesOn] at outcomes
    split <;> rename_i escapes <;>
      obtain ⟨g, again, -⟩ := escapeFrame_transfer escapes mallocs.symm
    · rfl
    obtain rfl := escapeFrame_out escapes
    split
    · rfl
    rename_i room
    have tried : Tried heap c₁ h frame := ⟨by rw [again]; rfl, Nat.not_lt.mp room⟩
    rw [writeFrameLoop_isSome, Nat.sub_zero, (escapeFrame_onlyAllocates escapes).writes]
    exact ends.loop tried _ outcomes

end FrameConn

end Libmdr
