import Libmdr.FrameConn.Leftover
import Libmdr.PacketConn.Reading

/-!
# Frames that wait in the read buffer

`mdr_packetconn_process_by_availability` takes one frame, and
`mdr_packetconn_poll_info` looks at the write side and the timer only. A frame
that came with another in one `read` waits in the buffer until the socket has more.
-/

namespace Libmdr
set_option autoImplicit false

open FrameConn (OneBodyPerRead)

/-- The caller is told to wait for the socket, and a complete frame is in the buffer. -/
def Stranded (now : Timespec) (s : State) : Prop :=
  (pollInfo now s).write = false ∧ (pollInfo now s).timeout ≠ 0 ∧ s.conn.fconn.HoldsFrame

/-- While each `read` ends at most one body, nothing complete stays in the buffer. -/
def State.Drained (s : State) : Prop :=
  OneBodyPerRead s.host.got →
    FrameConn.Drained (FrameConn.openBody none s.host.got.flatten) s.conn.fconn

theorem drained_invariant : ReadInvariant State.Drained where
  noRead := by
    intro s t noRead drained few
    obtain ⟨readBuf, readStarted, input⟩ := noRead.reading
    have same := FrameConn.pending_of_same readBuf readStarted
    rw [input.got] at few ⊢
    obtain ⟨fits, nothing, place⟩ := drained few
    exact ⟨by rw [readBuf]; exact fits, by rw [same]; exact nothing, by rw [same]; exact place⟩
  read := by
    intro s frame fconn host read drained few
    obtain ⟨more, got⟩ := FrameConn.readFrame_got read
    have before : OneBodyPerRead s.host.got := by
      change OneBodyPerRead host.got at few
      rw [got] at few
      exact few.front
    obtain ⟨fits, nothing, place⟩ := drained before
    exact FrameConn.readFrame_drained fits (by rw [nothing]; exact Nat.zero_le _) place read few

theorem drained_start {host : Host} (nothingRead : host.got = []) :
    (State.start .fresh host).Drained := by
  intro _
  change FrameConn.Drained (FrameConn.openBody none host.got.flatten) .fresh
  rw [nothingRead]
  exact ⟨Nat.zero_le _, rfl, .inl rfl⟩

/-- **When no frame is stranded.** When each `read` of a run ends at most one
delimited body, no call leaves a complete frame in the buffer, whatever the caller
is told then. -/
theorem not_stranded_of_oneBodyPerRead {env : Env} {calls : List Call} {host : Host} {s s' : State}
    {now : Timespec} {writable : Bool} (nothingRead : host.got = [])
    (ran : run env calls (State.start .fresh host) = some s)
    (processed : process env now true writable s = some (0, s'))
    (few : OneBodyPerRead s'.host.got) (later : Timespec) : ¬ Stranded later s' := by
  intro stranded
  have before : s.Drained := drained_invariant.run ran (drained_start nothingRead)
  have after : s'.Drained := drained_invariant.process processed before
  exact (after few).not_holdsFrame stranded.2.2

/-- An ACK and the reply behind it, one `read` each. -/
theorem not_stranded_ack_then_reply :
    ∃ s s', run Env.idle [.user getProtocolInfo, .process ⟨0, 0⟩ false true, .process ⟨0, 0⟩ true true]
        (State.start .fresh (.listing [.data [0x3e, 1, 1, 0, 0, 0, 0, 2, 0x3c],
          .data [0x3e, 0x0c, 1, 0, 0, 0, 4, 1, 0, 1, 2, 0x15, 0x3c]] [.wrote 100, .wrote 100])) = some s ∧
      process Env.idle ⟨0, 0⟩ true false s = some (0, s') ∧ ¬ Stranded ⟨0, 0⟩ s' := by
  obtain ⟨s, ran, next⟩ := (Option.any_eq_true _ _).mp (show (run Env.idle
    [.user getProtocolInfo, .process ⟨0, 0⟩ false true, .process ⟨0, 0⟩ true true]
    (State.start .fresh (.listing [.data [0x3e, 1, 1, 0, 0, 0, 0, 2, 0x3c],
      .data [0x3e, 0x0c, 1, 0, 0, 0, 4, 1, 0, 1, 2, 0x15, 0x3c]] [.wrote 100, .wrote 100]))).any
    (fun s => (process Env.idle ⟨0, 0⟩ true false s).any fun out =>
      decide (out.1 = 0 ∧ OneBodyPerRead out.2.host.got)) = true by decide +kernel)
  obtain ⟨⟨result, s'⟩, processed, both⟩ := (Option.any_eq_true _ _).mp next
  obtain ⟨rfl, few⟩ := of_decide_eq_true both
  exact ⟨s, s', ran, processed, not_stranded_of_oneBodyPerRead rfl ran processed few _⟩

/-- An ACK and the reply behind it in one `read`: the reply waits in the buffer
while the caller is told to wait for the socket. -/
theorem stranded_ack_with_reply :
    ∃ s s', run Env.idle [.user getProtocolInfo, .process ⟨0, 0⟩ false true]
        (State.start .fresh (.listing [.data ([0x3e, 1, 1, 0, 0, 0, 0, 2, 0x3c] ++
          [0x3e, 0x0c, 1, 0, 0, 0, 4, 1, 0, 1, 2, 0x15, 0x3c])] [.wrote 100])) = some s ∧
      process Env.idle ⟨0, 0⟩ true false s = some (0, s') ∧ Stranded ⟨0, 0⟩ s' := by
  obtain ⟨s, ran, next⟩ := (Option.any_eq_true _ _).mp (show (run Env.idle
    [.user getProtocolInfo, .process ⟨0, 0⟩ false true] (State.start .fresh (.listing
      [.data ([0x3e, 1, 1, 0, 0, 0, 0, 2, 0x3c] ++
        [0x3e, 0x0c, 1, 0, 0, 0, 4, 1, 0, 1, 2, 0x15, 0x3c])] [.wrote 100]))).any (fun s =>
    (process Env.idle ⟨0, 0⟩ true false s).any fun out => decide (out.1 = 0 ∧
      pollInfo ⟨0, 0⟩ out.2 = { write := false, timeout := 1000 } ∧
      out.2.conn.fconn.pending = [0x3e, 0x0c, 1, 0, 0, 0, 4, 1, 0, 1, 2, 0x15, 0x3c])) = true
    by decide +kernel)
  obtain ⟨⟨result, s'⟩, processed, all⟩ := (Option.any_eq_true _ _).mp next
  obtain ⟨rfl, poll, left⟩ := of_decide_eq_true all
  refine ⟨s, s', ran, processed, by rw [poll], by rw [poll]; decide, ?_⟩
  exact ⟨[], [0x0c, 1, 0, 0, 0, 4, 1, 0, 1, 2, 0x15], [], left, by decide, by decide +kernel⟩

end Libmdr
