import Mathlib.Algebra.Ring.Nat
import Mathlib.Data.List.Basic

/-!
# The host: errno, the socket and the heap

The library talks to its host through `read`, `write` and `malloc`. What these
calls give is not the library's choice, so it is an input of the model: the
outcomes of the `read` and `write` calls to come are lists in `Host`, taken one
by one in the order the calls are made, and a `Heap` says what the `k`-th
`malloc` returns. A property proved for all of them holds for every behaviour of
the host.

A system call for which no outcome is listed gives `none`: with the outcomes
listed the C function has not returned yet. `wire` and `got` record what has
gone through the socket so far.
-/

namespace Libmdr
set_option autoImplicit false

/-- `errno` values: the host's are positive, those of `mdr/errors.h` negative. -/
abbrev Errno := Int

def eintr : Errno := 4
def eagain : Errno := 11
def enomem : Errno := 12
def einval : Errno := 22

/-- Linux defines `EWOULDBLOCK` as `EAGAIN`. -/
def ewouldblock : Errno := eagain

def mdrEInvalidFrame : Errno := -1
def mdrEInvalidPacket : Errno := -2
def mdrENoAck : Errno := -4
def mdrENoReply : Errno := -5
def mdrEClosed : Errno := -6

/-- What the kernel has for a `read`: bytes (none at end of stream) or an error. -/
inductive ReadOutcome
  | data (bytes : List UInt8)
  | err (e : Errno)
  deriving DecidableEq, Repr

/-- What a `write` does: accept up to `n` of the bytes offered, or fail. -/
inductive WriteOutcome
  | wrote (n : Nat)
  | err (e : Errno)
  deriving DecidableEq, Repr

/-- `malloc` gives NULL or a block; the bytes a fresh block holds are arbitrary
(zeros past the end of the list). -/
abbrev Block := Option (List UInt8)

/-- The state shared with the host. -/
structure Host where
  errno : Errno
  reads : List ReadOutcome
  writes : List WriteOutcome
  /-- Number of `malloc` and `realloc` calls made so far. -/
  mallocs : Nat
  /-- The bytes the socket has accepted, in order. -/
  wire : List UInt8
  /-- The results of the successful `read` calls, in order. -/
  got : List (List UInt8)
  deriving DecidableEq, Repr

namespace Host

/-- `read(sock, buf, n)`. A chunk longer than `n` is cut; its rest stays ready. -/
def read (h : Host) (n : Nat) : Option (Except Errno (List UInt8) × Host) :=
  match h.reads with
  | [] => none
  | .err e :: rest => some (.error e, { h with errno := e, reads := rest })
  | .data bytes :: rest =>
    some (.ok (bytes.take n),
      { h with
        reads := if bytes.length ≤ n then rest else .data (bytes.drop n) :: rest
        got := h.got ++ [bytes.take n] })

/-- `write(sock, bytes, bytes.length)`, giving the number of bytes accepted. -/
def write (h : Host) (bytes : List UInt8) : Option (Except Errno Nat × Host) :=
  match h.writes with
  | [] => none
  | .err e :: rest => some (.error e, { h with errno := e, writes := rest })
  | .wrote n :: rest =>
    some (.ok (min n bytes.length), { h with writes := rest, wire := h.wire ++ bytes.take n })

/-- The bytes and results still to come, a measure of how many `read` calls that
return something are left. -/
def pendingReads (h : Host) : Nat :=
  (h.reads.map fun
    | .data bytes => bytes.length + 1
    | .err _ => 1).sum

theorem read_pendingReads {h h' : Host} {n : Nat} {r : Except Errno (List UInt8)} (space : 0 < n)
    (run : h.read n = some (r, h')) : h'.pendingReads < h.pendingReads := by
  unfold read at run
  split at run
  · cases run
  · cases run
    rename_i e rest reads
    simp [pendingReads, reads]
  · cases run
    rename_i bytes rest reads
    by_cases short : bytes.length ≤ n
    · simp [pendingReads, reads, short]
    · simp only [pendingReads, reads, short, if_false, List.map_cons, List.sum_cons,
        List.length_drop]
      omega

/-- A `read` gives no more bytes than there are to come. -/
theorem read_bytes_le {h h' : Host} {n : Nat} {bytes : List UInt8}
    (run : h.read n = some (.ok bytes, h')) :
    bytes.length + h'.pendingReads ≤ h.pendingReads := by
  unfold read at run
  split at run <;> cases run
  rename_i bytes rest reads
  by_cases short : bytes.length ≤ n
  · simp only [pendingReads, reads, short, if_true, List.map_cons, List.sum_cons, List.length_take]
    omega
  · simp only [pendingReads, reads, short, if_false, List.map_cons, List.sum_cons,
      List.length_drop, List.length_take]
    omega

/-- The bytes that arrive before the first error that is not an interruption. -/
def arriving : List ReadOutcome → List UInt8
  | [] => []
  | .data bytes :: rest => bytes ++ arriving rest
  | .err e :: rest => if e = eintr then arriving rest else []

/-- The listed outcomes end with an error that is not an interruption. -/
def Blocks : List ReadOutcome → Prop
  | [] => False
  | .data _ :: rest => Blocks rest
  | .err e :: rest => e = eintr → Blocks rest

/-- Chunks that arrive one by one, and then a `read` that would block. -/
def chunked (chunks : List (List UInt8)) : List ReadOutcome :=
  chunks.map .data ++ [.err eagain]

theorem arriving_chunked (chunks : List (List UInt8)) :
    arriving (chunked chunks) = chunks.flatten := by
  induction chunks with
  | nil => simp [chunked, arriving, eagain, eintr]
  | cons chunk rest ih =>
    rw [List.flatten_cons, ← ih]
    rfl

theorem blocks_chunked (chunks : List (List UInt8)) : Blocks (chunked chunks) := by
  induction chunks with
  | nil =>
    intro interrupted
    cases interrupted
  | cons chunk rest ih => exact ih

theorem read_eq_none {h : Host} {n : Nat} : h.read n = none ↔ h.reads = [] := by
  unfold read
  split <;> simp [*]

/-- A failed `read` uses up one error. -/
theorem read_error {h h' : Host} {n : Nat} {e : Errno} (run : h.read n = some (.error e, h')) :
    h.reads = .err e :: h'.reads := by
  unfold read at run
  split at run <;> cases run
  assumption

theorem read_error_reads {h h' : Host} {n : Nat} {e : Errno}
    (run : h.read n = some (.error e, h')) : h'.reads.length < h.reads.length := by
  rw [read_error run]
  exact Nat.lt_succ_self _

theorem read_error_pendingReads {h h' : Host} {n : Nat} {e : Errno}
    (run : h.read n = some (.error e, h')) : h'.pendingReads < h.pendingReads := by
  simp [pendingReads, read_error run]

/-- A `read` that succeeds takes the next bytes of the stream. -/
theorem read_ok {h h' : Host} {n : Nat} {bytes : List UInt8}
    (run : h.read n = some (.ok bytes, h')) :
    bytes.length ≤ n ∧ arriving h.reads = bytes ++ arriving h'.reads ∧
      (Blocks h.reads → Blocks h'.reads) := by
  unfold read at run
  split at run <;> cases run
  rename_i all rest reads
  refine ⟨List.length_take_le _ _, ?_, ?_⟩
  · by_cases short : all.length ≤ n
    · simp only [reads, short, if_true, arriving, List.take_of_length_le]
    · simp only [reads, short, if_false, arriving]
      rw [← List.append_assoc, List.take_append_drop]
  · by_cases short : all.length ≤ n
    · simp only [reads, short, if_true, Blocks, imp_self]
    · simp only [reads, short, if_false, Blocks, imp_self]

/-- A `read` that succeeds is recorded. -/
theorem read_got {h h' : Host} {n : Nat} {r : Except Errno (List UInt8)}
    (run : h.read n = some (r, h')) : h'.got = h.got ++ r.toOption.toList := by
  unfold read at run
  split at run <;> cases run
  · exact (List.append_nil _).symm
  · rfl

theorem write_writes {h h' : Host} {bytes : List UInt8} {r : Except Errno Nat}
    (run : h.write bytes = some (r, h')) : h'.writes.length < h.writes.length := by
  unfold write at run
  split at run <;> cases run <;> simp [*]

end Host

/-- What the `k`-th `malloc` of a run gives. -/
abbrev Heap := Nat → Block

/-- The next `malloc` (or `realloc`): its block, and the host after it. -/
def Host.malloc (heap : Heap) (h : Host) : Block × Host :=
  match heap h.mallocs with
  | none => (none, { h with mallocs := h.mallocs + 1, errno := enomem })
  | some junk => (some junk, { h with mallocs := h.mallocs + 1 })

end Libmdr
