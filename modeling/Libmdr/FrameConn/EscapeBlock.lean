import Libmdr.FrameConn.Escape
import Libmdr.Lib.Buffer
import Libmdr.Lib.Traced

/-!
# The block that a frame is escaped into

`mdr_frameconn_escape_frame` with the block `escaped`, its size `allocated` and the index
`write`, and the bytes that it stores one by one. The estimate of the size is too small for a
frame with many reserved bytes, and the block grows on the way. Every store is in the block,
and what is returned is the escaped form of the frame.
-/

namespace Libmdr.FrameConn
set_option autoImplicit false

/-- `escaped[index] = byte`, in a block of `allocated` bytes. -/
structure Store where
  index : Nat
  byte : UInt8
  allocated : Nat
  deriving DecidableEq, Repr

def Store.Inside (store : Store) : Prop := store.index < store.allocated

/-- `(a + 2) * 9 / 8` of `size_t`. -/
def grown (a : Nat) : Nat := (a + 2) * 9 % 2 ^ 64 / 8

/-- `b` at index `read` of the frame at `frameBytes`, the length in network order. -/
def frameByte (frameBytes : Buffer UInt8) (payloadLength : UInt32) : Buffer UInt8 := fun read =>
  if 2 ≤ read ∧ read < 6 then (be32 payloadLength).getD (read - 2) 0 else frameBytes read

/-- `frame_len`. -/
def frameLen (payloadLength : UInt32) : Nat := (frameEmptyLen + payloadLength).toNat

/-- The frame's bytes in the order of the loop. -/
def wireBytes (frameBytes : Buffer UInt8) (payloadLength : UInt32) : List UInt8 :=
  (frameByte frameBytes payloadLength).slice 0 (frameLen payloadLength)

theorem length_wireBytes (frameBytes : Buffer UInt8) (payloadLength : UInt32) :
    (wireBytes frameBytes payloadLength).length = frameLen payloadLength :=
  (frameByte frameBytes payloadLength).length_slice 0 (frameLen payloadLength)

/-- The local variables of `mdr_frameconn_escape_frame`. -/
structure EscapeBlock where
  escaped : Buffer UInt8
  allocated : Nat
  write : Nat

namespace EscapeBlock

/-- The bytes written. -/
def out (x : EscapeBlock) : List UInt8 := x.escaped.slice 0 x.write

/-- The store of `b` at `write`. -/
def storing (x : EscapeBlock) (b : UInt8) : Store := ⟨x.write, b, x.allocated⟩

/-- `escaped[write] = b` and `write++`. -/
def stored (x : EscapeBlock) (b : UInt8) : EscapeBlock :=
  { x with escaped := x.escaped.put x.write [b], write := x.write + 1 }

/-- `realloc(escaped, size)`: bytes that are in both blocks stay. -/
def realloc (heap : Heap) (x : EscapeBlock) (size : Nat) (h : Host) : Option EscapeBlock × Host :=
  match h.malloc heap with
  | (none, h) => (none, h)
  | (some fresh, h) =>
    (some { x with
      escaped := fun i => if i < min x.allocated size then x.escaped i else fresh.getD i 0
      allocated := size }, h)

/-- `ENSURE_ESCAPED_BUFFER(n)`. -/
def ensure (heap : Heap) (n : Nat) (x : EscapeBlock) (h : Host) : Option EscapeBlock × Host :=
  if x.allocated ≤ x.write + (n - 1) then x.realloc heap (grown x.allocated) h else (some x, h)

/-- The loop over the frame's bytes. -/
def escapeLoop (heap : Heap) :
    List UInt8 → EscapeBlock → Host → Traced Store (Option EscapeBlock × Host)
  | [], x, h => pure (some x, h)
  | b :: rest, x, h =>
    if b = frameStartByte ∨ b = frameEscapeByte ∨ b = frameEndByte then
      match x.ensure heap 2 h with
      | (none, h) => pure (none, h)
      | (some x, h) =>
        let y := x.stored frameEscapeByte
        .after [x.storing frameEscapeByte, y.storing (b &&& ~~~frameEscapeMask)]
          (escapeLoop heap rest (y.stored (b &&& ~~~frameEscapeMask)) h)
    else
      match x.ensure heap 1 h with
      | (none, h) => pure (none, h)
      | (some x, h) => .after [x.storing b] (escapeLoop heap rest (x.stored b) h)

/-- The end byte and the last `realloc`. -/
def finish (heap : Heap) (x : EscapeBlock) (h : Host) : Traced Store (Option (List UInt8) × Host) :=
  match x.ensure heap 1 h with
  | (none, h) => pure (none, h)
  | (some x, h) =>
    let y := x.stored frameEndByte
    match y.realloc heap y.write h with
    | (none, h) => .after [x.storing frameEndByte] (pure (none, h))
    | (some y, h) => .after [x.storing frameEndByte] (pure (some y.out, h))

/-- The block that `malloc` gives, of the estimated size. -/
def allocate (payloadLength : UInt32) (fresh : List UInt8) : EscapeBlock :=
  { escaped := fun i => fresh.getD i 0
    allocated := 2 + grown (frameLen payloadLength)
    write := 0 }

/-- `mdr_frameconn_escape_frame` of the frame at `frameBytes`, with the bytes returned. -/
def escapeFrame (heap : Heap) (frameBytes : Buffer UInt8) (payloadLength : UInt32) (h : Host) :
    Traced Store (Option (List UInt8) × Host) :=
  match h.malloc heap with
  | (none, h) => pure (none, h)
  | (some fresh, h) =>
    let x := allocate payloadLength fresh
    .after [x.storing frameStartByte] do
      match ← escapeLoop heap (wireBytes frameBytes payloadLength) (x.stored frameStartByte) h with
      | (none, h) => pure (none, h)
      | (some x, h) => x.finish heap h

/-! ## The size of the block -/

/-- The block grows by two bytes at least, and does not wrap as long as it is small. -/
theorem grown_spec {a : Nat} (small : a < 2 ^ 34) :
    grown a = (a + 2) * 9 / 8 ∧ a + 2 ≤ grown a := by
  unfold grown
  rw [Nat.mod_eq_of_lt (by omega)]
  exact ⟨rfl, by omega⟩

/-- The bytes written are in the block, and what is still to come keeps it small. -/
structure Fits (x : EscapeBlock) (rest : Nat) : Prop where
  inside : x.write ≤ x.allocated
  few : x.write + 2 * rest ≤ 2 ^ 33 + 1
  small : x.allocated < 2 ^ 34

theorem out_length (x : EscapeBlock) : x.out.length = x.write := x.escaped.length_slice 0 x.write

theorem out_stored (x : EscapeBlock) (b : UInt8) : (x.stored b).out = x.out ++ [b] := by
  have put := x.escaped.slice_put_behind 0 x.write [b]
  rw [Nat.zero_add] at put
  exact put

/-- A `realloc` that leaves room for the bytes written keeps them. -/
theorem slice_realloc {x : EscapeBlock} {size : Nat} (inside : x.write ≤ x.allocated)
    (room : x.write ≤ size) (fresh : List UInt8) :
    Buffer.slice (fun i => if i < min x.allocated size then x.escaped i else fresh.getD i 0) 0
      x.write = x.out := by
  apply List.map_congr_left
  intro i isIn
  have small : i < x.write := List.mem_range.mp isIn
  exact if_pos (by omega)

theorem realloc_some {heap : Heap} {x y : EscapeBlock} {size : Nat} {h h' : Host}
    (inside : x.write ≤ x.allocated) (room : x.write ≤ size)
    (run : x.realloc heap size h = (some y, h')) :
    y.write = x.write ∧ y.allocated = size ∧ y.out = x.out := by
  unfold realloc at run
  split at run
  · cases run
  · cases run
    exact ⟨rfl, rfl, slice_realloc inside room _⟩

/-- After `ENSURE_ESCAPED_BUFFER(n)` there is room for `n` bytes. -/
theorem Fits.ensure {heap : Heap} {x y : EscapeBlock} {rest n : Nat} {h h' : Host}
    (fits : x.Fits (rest + 1)) (few : n = 1 ∨ n = 2) (run : x.ensure heap n h = (some y, h')) :
    y.write = x.write ∧ y.out = x.out ∧ y.write + n ≤ y.allocated ∧ y.allocated < 2 ^ 34 := by
  obtain ⟨inside, short, small⟩ := fits
  obtain ⟨exact, larger⟩ := grown_spec small
  unfold EscapeBlock.ensure at run
  split at run
  · obtain ⟨write, allocated, out⟩ := realloc_some inside (by omega) run
    refine ⟨write, out, ?_, ?_⟩ <;> omega
  · cases run
    exact ⟨rfl, rfl, by omega, small⟩

theorem Fits.stored {x y : EscapeBlock} {rest : Nat} (fits : x.Fits (rest + 1))
    (write : y.write = x.write) (room : y.write + 1 ≤ y.allocated) (small : y.allocated < 2 ^ 34)
    (b : UInt8) : (y.stored b).Fits rest := by
  have few := fits.few
  exact ⟨room, by change y.write + 1 + 2 * rest ≤ 2 ^ 33 + 1; omega, small⟩

theorem Fits.stored_twice {x y : EscapeBlock} {rest : Nat} (fits : x.Fits (rest + 1))
    (write : y.write = x.write) (room : y.write + 2 ≤ y.allocated) (small : y.allocated < 2 ^ 34)
    (b c : UInt8) : ((y.stored b).stored c).Fits rest := by
  have few := fits.few
  exact ⟨room, by change y.write + 1 + 1 + 2 * rest ≤ 2 ^ 33 + 1; omega, small⟩

theorem escapeLoop_safe {bytes : List UInt8} {x : EscapeBlock}
    (fits : x.Fits (bytes.length + 1)) (heap : Heap) (h : Host) :
    (escapeLoop heap bytes x h).Safe Store.Inside fun r => ∀ y, r.1 = some y → y.Fits 1 := by
  fun_induction escapeLoop heap bytes x h with
  | case1 x h =>
    refine .of_pure fun y isSome => ?_
    cases isSome
    exact fits
  | case2 b rest x h reserved h' failed => exact .of_pure fun y isSome => by cases isSome
  | case3 b rest x h reserved x' h' ensured y ih =>
    obtain ⟨write, -, room, small⟩ := fits.ensure (.inr rfl) ensured
    refine .after ?_ (ih (fits.stored_twice write room small _ _))
    exact List.forall_mem_cons.mpr
      ⟨Nat.lt_of_succ_lt room, List.forall_mem_singleton.mpr room⟩
  | case4 b rest x h plain h' failed => exact .of_pure fun y isSome => by cases isSome
  | case5 b rest x h plain x' h' ensured ih =>
    obtain ⟨write, -, room, small⟩ := fits.ensure (.inl rfl) ensured
    exact .after (List.forall_mem_singleton.mpr room) (ih (fits.stored write room small b))

theorem finish_safe {x : EscapeBlock} (fits : x.Fits 1) (heap : Heap) (h : Host) :
    (x.finish heap h).Safe Store.Inside fun _ => True := by
  unfold finish
  split
  · exact .of_pure trivial
  · rename_i y h' ensured
    have room := (fits.ensure (.inl rfl) ensured).2.2.1
    dsimp only
    split
    · exact .after (List.forall_mem_singleton.mpr room) (.of_pure trivial)
    · exact .after (List.forall_mem_singleton.mpr room) (.of_pure trivial)

theorem frameLen_eq {payloadLength : UInt32} (small : payloadLength.toNat < 2 ^ 32 - 7) :
    frameLen payloadLength = 7 + payloadLength.toNat := by
  simp only [frameLen, frameEmptyLen, UInt32.toNat_add, UInt32.reduceToNat]
  omega

/-- The block at the start of the loop. -/
theorem fits_start {payloadLength : UInt32} (small : payloadLength.toNat < 2 ^ 32 - 7)
    (frameBytes : Buffer UInt8) (fresh : List UInt8) (b : UInt8) :
    ((allocate payloadLength fresh).stored b).Fits
      ((wireBytes frameBytes payloadLength).length + 1) := by
  rw [length_wireBytes]
  have length := frameLen_eq small
  have estimate := (grown_spec (a := frameLen payloadLength) (by omega)).1
  refine ⟨?_, ?_, ?_⟩
  · change 0 + 1 ≤ 2 + grown (frameLen payloadLength)
    omega
  · change 0 + 1 + 2 * (frameLen payloadLength + 1) ≤ 2 ^ 33 + 1
    omega
  · change 2 + grown (frameLen payloadLength) < 2 ^ 34
    omega

/-- Every byte is stored in the block. -/
theorem escapeFrame_safe {payloadLength : UInt32} (small : payloadLength.toNat < 2 ^ 32 - 7)
    (heap : Heap) (frameBytes : Buffer UInt8) (h : Host) :
    (escapeFrame heap frameBytes payloadLength h).Safe Store.Inside fun _ => True := by
  unfold escapeFrame
  split
  · exact .of_pure trivial
  · rename_i fresh h' _
    have start := fits_start small frameBytes fresh frameStartByte
    refine .after (List.forall_mem_singleton.mpr ?_) (.bind (escapeLoop_safe start heap h') ?_)
    · exact start.inside
    · rintro ⟨_ | x, h⟩ fits
      · exact .of_pure trivial
      · exact finish_safe (fits x rfl) heap h

/-! ## The bytes -/

/-- What `EscapeBuf` keeps of the block. -/
def buf (x : EscapeBlock) : EscapeBuf := { out := x.out, allocated := x.allocated }

@[simp] theorem buf_out (x : EscapeBlock) : x.buf.out = x.out := rfl
@[simp] theorem buf_allocated (x : EscapeBlock) : x.buf.allocated = x.allocated := rfl

theorem buf_stored (x : EscapeBlock) (b : UInt8) :
    (x.stored b).buf = { x.buf with out := x.buf.out ++ [b] } := by
  unfold buf
  rw [out_stored]
  rfl

theorem Fits.ensure_buf {x : EscapeBlock} {rest : Nat} (fits : x.Fits rest) (n : Nat) (heap : Heap)
    (h : Host) :
    ensureEscapedBuffer heap n x.buf h = ((x.ensure heap n h).1.map buf, (x.ensure heap n h).2) := by
  obtain ⟨exact, larger⟩ := grown_spec fits.small
  unfold ensureEscapedBuffer EscapeBlock.ensure
  simp only [buf_allocated, buf_out, out_length]
  split
  · unfold realloc
    rcases h.malloc heap with ⟨_ | fresh, h'⟩
    · rfl
    · have room : x.write ≤ grown x.allocated := by
        have inside := fits.inside
        omega
      have kept := slice_realloc fits.inside room fresh
      rw [← exact]
      simp only [Option.map_some, buf, out, kept]
  · rfl

theorem escapeLoop_of_none {b : UInt8} {bytes rest : List UInt8} {heap : Heap} {out : EscapeBuf}
    {h h' : Host} (sent : escapeByte b = bytes)
    (failed : ensureEscapedBuffer heap bytes.length out h = (none, h')) :
    FrameConn.escapeLoop heap (b :: rest) out h = (none, h') := by
  subst sent
  rw [FrameConn.escapeLoop, failed]

theorem escapeLoop_of_some {b : UInt8} {bytes rest : List UInt8} {heap : Heap}
    {out out' : EscapeBuf} {h h' : Host} (sent : escapeByte b = bytes)
    (ensured : ensureEscapedBuffer heap bytes.length out h = (some out', h')) :
    FrameConn.escapeLoop heap (b :: rest) out h =
      FrameConn.escapeLoop heap rest { out' with out := out'.out ++ bytes } h' := by
  subst sent
  rw [FrameConn.escapeLoop, ensured]

/-- The loop writes what the loop of the encoder writes. -/
theorem escapeLoop_result {bytes : List UInt8} {x : EscapeBlock}
    (fits : x.Fits (bytes.length + 1)) (heap : Heap) (h : Host) :
    (escapeLoop heap bytes x h).result.map (fun r => (r.1.map buf, r.2)) =
      some (FrameConn.escapeLoop heap bytes x.buf h) := by
  fun_induction escapeLoop heap bytes x h with
  | case1 x h => rfl
  | case2 b rest x h reserved h' failed =>
    have same := fits.ensure_buf 2 heap h
    rw [failed] at same
    rw [escapeLoop_of_none (if_pos reserved) same]
    rfl
  | case3 b rest x h reserved x' h' ensured y ih =>
    obtain ⟨write, -, room, small⟩ := fits.ensure (.inr rfl) ensured
    have same := fits.ensure_buf 2 heap h
    rw [ensured] at same
    have later := ih (fits.stored_twice write room small _ _)
    rw [escapeLoop_of_some (if_pos reserved) same]
    rw [buf_stored, buf_stored, List.append_assoc] at later
    exact later
  | case4 b rest x h plain h' failed =>
    have same := fits.ensure_buf 1 heap h
    rw [failed] at same
    rw [escapeLoop_of_none (if_neg plain) same]
    rfl
  | case5 b rest x h plain x' h' ensured ih =>
    obtain ⟨write, -, room, small⟩ := fits.ensure (.inl rfl) ensured
    have same := fits.ensure_buf 1 heap h
    rw [ensured] at same
    have later := ih (fits.stored write room small b)
    rw [escapeLoop_of_some (if_neg plain) same]
    rw [buf_stored] at later
    exact later

theorem finish_result {x : EscapeBlock} (fits : x.Fits 1) (heap : Heap) (h : Host) :
    (x.finish heap h).result =
      some (match ensureEscapedBuffer heap 1 x.buf h with
        | (none, h) => (none, h)
        | (some buf, h) =>
          match h.malloc heap with
          | (none, h) => (none, h)
          | (some _, h) => (some (buf.out ++ [frameEndByte]), h)) := by
  rw [fits.ensure_buf 1 heap h]
  unfold finish
  rcases ensured : x.ensure heap 1 h with ⟨_ | y, h'⟩
  · rfl
  · have room := (fits.ensure (.inl rfl) ensured).2.2.1
    have fits' : (y.stored frameEndByte).write ≤ y.write + 1 := Nat.le_refl _
    have kept := slice_realloc (x := y.stored frameEndByte) room fits'
    simp only [Option.map_some, realloc]
    rcases h'.malloc heap with ⟨_ | fresh, h₂⟩
    · rfl
    · have same := (kept fresh).trans (out_stored y frameEndByte)
      exact congrArg (fun bytes => some (some bytes, h₂)) same

/-- The frame at `frameBytes`. -/
def frameAt (frameBytes : Buffer UInt8) (payloadLength : UInt32) : Frame :=
  { dataType := frameBytes 0, sequenceId := frameBytes 1, payloadLength
    body := frameBytes.slice 6 (frameLen payloadLength - 6) }

theorem frameAt_wellFormed {payloadLength : UInt32} (small : payloadLength.toNat < 2 ^ 32 - 7)
    (frameBytes : Buffer UInt8) : (frameAt frameBytes payloadLength).WellFormed := by
  refine ⟨?_, ?_⟩
  · rw [frameAt, Buffer.length_slice, frameLen_eq small]
    dsimp only
    omega
  · change payloadLength.toNat + 7 < 2 ^ 32
    omega

/-- The bytes that the loop reads. -/
theorem wireBytes_eq {payloadLength : UInt32} (small : payloadLength.toNat < 2 ^ 32 - 7)
    (frameBytes : Buffer UInt8) :
    wireBytes frameBytes payloadLength = (frameAt frameBytes payloadLength).bytes := by
  have length : frameLen payloadLength = 6 + (frameLen payloadLength - 6) := by
    have eq := frameLen_eq small
    omega
  have behind : (frameByte frameBytes payloadLength).slice 6 (frameLen payloadLength - 6) =
      frameBytes.slice 6 (frameLen payloadLength - 6) :=
    List.map_congr_left fun k _ => if_neg (by omega)
  rw [wireBytes, length, ← Buffer.slice_append, Nat.zero_add, behind]
  rfl

/-- What is returned is what the encoder returns. -/
theorem escapeFrame_result {payloadLength : UInt32} (small : payloadLength.toNat < 2 ^ 32 - 7)
    (heap : Heap) (frameBytes : Buffer UInt8) (h : Host) :
    (escapeFrame heap frameBytes payloadLength h).result =
      some (FrameConn.escapeFrame heap (frameAt frameBytes payloadLength) h) := by
  have whole : (frameAt frameBytes payloadLength).bytes.take
      (frameAt frameBytes payloadLength).frameLen =
        wireBytes frameBytes payloadLength := by
    rw [wireBytes_eq small, List.take_of_length_le]
    exact Nat.le_of_eq (Frame.bytes_length_of_wellFormed (frameAt_wellFormed small frameBytes))
  unfold escapeFrame FrameConn.escapeFrame
  rcases h.malloc heap with ⟨_ | fresh, h'⟩
  · rfl
  · have start := fits_start small frameBytes fresh frameStartByte
    have estimate : grown (frameLen payloadLength) = (frameLen payloadLength + 2) * 9 / 8 :=
      (grown_spec (by rw [frameLen_eq small]; omega)).1
    have first : ((allocate payloadLength fresh).stored frameStartByte).buf =
        ⟨[frameStartByte], 2 + ((frameAt frameBytes payloadLength).frameLen + 2) * 9 / 8⟩ := by
      rw [buf_stored]
      change EscapeBuf.mk _ (2 + grown (frameLen payloadLength)) = _
      rw [estimate]
      rfl
    have looped := escapeLoop_result start heap h'
    have safe := escapeLoop_safe start heap h'
    rw [Traced.after_result, Traced.bind_result]
    dsimp only
    rw [whole, ← first]
    obtain ⟨⟨r, h₂⟩, returned, same⟩ := Option.map_eq_some_iff.mp looped
    rw [← same, returned]
    cases r with
    | none => rfl
    | some x =>
      have fits := safe.result _ returned x rfl
      exact finish_result fits heap h₂

def IsReserved (b : UInt8) : Prop := b = frameStartByte ∨ b = frameEscapeByte ∨ b = frameEndByte

instance (b : UInt8) : Decidable (IsReserved b) := inferInstanceAs (Decidable (_ ∨ _))

/-- START and END around the escaped bytes, one byte more for each reserved byte. -/
structure Escapes (bytes out : List UInt8) : Prop where
  length : out.length = 2 + bytes.length + bytes.countP fun b => decide (IsReserved b)
  delimited : ∃ body, out = frameStartByte :: body ++ [frameEndByte] ∧
    frameStartByte ∉ body ∧ frameEndByte ∉ body

theorem escapes (bytes : List UInt8) :
    Escapes bytes (frameStartByte :: bytes.flatMap escapeByte ++ [frameEndByte]) := by
  refine ⟨?_, bytes.flatMap escapeByte, rfl, not_mem_escape bytes⟩
  have length : (bytes.flatMap escapeByte).length =
      bytes.length + bytes.countP fun b => decide (IsReserved b) := by
    rw [flatMap_escapeByte]
    exact Stuffing.length_encode stuffing bytes
  rw [List.length_append, List.length_cons, length, List.length_singleton]
  omega

/-- **Whatever the frame, it is escaped inside the block**, and when no allocation fails its
escaped form is returned. -/
theorem escapeFrame_spec {payloadLength : UInt32} (small : payloadLength.toNat < 2 ^ 32 - 7)
    (heap : Heap) (frameBytes : Buffer UInt8) (h : Host) :
    (∀ store ∈ (escapeFrame heap frameBytes payloadLength h).events, store.Inside) ∧
      (wireBytes frameBytes payloadLength).length = 7 + payloadLength.toNat ∧
      (∀ out h', (escapeFrame heap frameBytes payloadLength h).result = some (some out, h') →
        Escapes (wireBytes frameBytes payloadLength) out) ∧
      ((∀ k, (heap k).isSome) → ∃ out h',
        (escapeFrame heap frameBytes payloadLength h).result = some (some out, h')) := by
  rw [escapeFrame_result small heap frameBytes h]
  refine ⟨(escapeFrame_safe small heap frameBytes h).events, ?_, fun out h' returns => ?_,
    fun never => ?_⟩
  · rw [length_wireBytes, frameLen_eq small]
  · have same := escapeFrame_out (Option.some.inj returns)
    rw [FrameConn.escaped, List.take_of_length_le, ← wireBytes_eq small] at same
    · rw [same]
      exact escapes (wireBytes frameBytes payloadLength)
    · exact Nat.le_of_eq (Frame.bytes_length_of_wellFormed (frameAt_wellFormed small frameBytes))
  · obtain ⟨out, h', returns⟩ := escapeFrame_some never (frameAt frameBytes payloadLength) h
    exact ⟨out, h', congrArg some returns⟩

/-- A frame all of START bytes, for which the block grows. -/
theorem escapeFrame_spec_reserved :
    let frameBytes : Buffer UInt8 := fun _ => frameStartByte
    let h : Host := { errno := 0, reads := [], writes := [], mallocs := 0, wire := [], got := [] }
    ∃ out h', (escapeFrame (fun _ => some []) frameBytes 20 h).result = some (some out, h') ∧
      Escapes (wireBytes frameBytes 20) out := by
  intro frameBytes h
  obtain ⟨_, _, escapes, returns⟩ :=
    @escapeFrame_spec 20 (by decide) (fun _ => some []) frameBytes h
  obtain ⟨out, h', returned⟩ := returns fun _ => rfl
  exact ⟨out, h', returned, escapes out h' returned⟩

end EscapeBlock

end Libmdr.FrameConn
