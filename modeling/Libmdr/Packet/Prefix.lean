import Libmdr.Packet.Reading

/-!
# Parsers determined by a prefix

What a parser takes decides what it returns: put first in any payload, the same bytes
give the same value, and a payload that ends within them is refused. `Determines`
says so of one run and `PrefixDetermined` of all runs of a parser. There is one rule
for each of the `PARSE_*` macros and one for sequencing.
-/

namespace Libmdr
set_option autoImplicit false

/-- A frame that holds its payload, short enough for the 32-bit sums of a parser. -/
structure Frame.Holds (frame : Frame) : Prop where
  body : frame.payloadLength.toNat ≤ frame.body.length
  small : frame.payloadLength.toNat < 2 ^ 31

namespace Parse

variable {α β : Type}

/-- Where `bytes` are all that is left of the payload, the parser returns no value. -/
def Rejects (p : Parse α) (bytes : List UInt8) : Prop :=
  ∀ (heap : Heap) (frame : Frame) (cursor : Cursor), heap.NeverFails → frame.Holds →
    cursor.offset.toNat ≤ frame.payloadLength.toNat →
    frame.payload.drop cursor.offset.toNat = bytes →
    ∀ a, (p heap frame cursor).1 ≠ .ok a

/-- Bytes that make a parser return a value, and no fewer of them do. -/
structure Determines (p : Parse α) (bytes : List UInt8) (a : α) : Prop where
  accepts : p.Accepts bytes a
  shorter : ∀ short, short <+: bytes → short ≠ bytes → p.Rejects short

/-- Whenever the parser returns a value, the bytes it took determine it. -/
def PrefixDetermined (p : Parse α) (n : Nat) : Prop := p.Reads n p.Determines

/-- The payload from a position on has as many bytes as the position is from the end. -/
theorem length_drop_payload {frame : Frame} (holds : frame.Holds) (offset : Nat) :
    (frame.payload.drop offset).length = frame.payloadLength.toNat - offset := by
  have body := holds.body
  rw [Frame.payload, List.length_drop, List.length_take, Nat.min_eq_left body]

/-- A sequence is refused where its first parser is. -/
theorem Rejects.first {first : Parse α} {bytes : List UInt8} (rejects : first.Rejects bytes)
    (next : α → Parse β) : (first >>= next).Rejects bytes := by
  intro heap frame cursor never holds inside isRest b isOk
  change (Parse.bind first next heap frame cursor).1 = .ok b at isOk
  unfold Parse.bind at isOk
  rcases ran : first heap frame cursor with ⟨failure | a, middle⟩
  · rw [ran] at isOk
    cases isOk
  · exact rejects heap frame cursor never holds inside isRest a (by rw [ran])

/-- A sequence is refused where its second parser is, behind what the first one took. -/
theorem Rejects.second {first : Parse α} {next : α → Parse β} {bytes more : List UInt8} {a : α}
    (accepts : first.Accepts bytes a) (rejects : (next a).Rejects more) :
    (first >>= next).Rejects (bytes ++ more) := by
  intro heap frame cursor never holds inside isRest b isOk
  have isNext : bytes <+: frame.payload.drop cursor.offset.toNat := by
    rw [isRest]
    exact List.prefix_append bytes more
  obtain ⟨middle, ran, moved⟩ := accepts heap frame cursor never inside isNext
  have stays := le_of_prefix_drop inside isNext
  rw [← moved] at stays
  have left : frame.payload.drop middle.offset.toNat = more := by
    rw [moved, ← List.drop_drop, isRest, List.drop_left]
  change (Parse.bind first next heap frame cursor).1 = .ok b at isOk
  rw [Parse.bind, ran] at isOk
  exact rejects heap frame middle never holds stays left b isOk

namespace Determines

/-- A parser that takes no byte has nothing shorter to refuse. -/
theorem of_nil {p : Parse α} {a : α} (accepts : p.Accepts [] a) : p.Determines [] a where
  accepts := accepts
  shorter _ isPrefix differs := absurd (List.prefix_nil.mp isPrefix) differs

/-- A payload that ends within a sequence ends within its first part or within the second. -/
theorem bind {first : Parse α} {next : α → Parse β} {bytes more : List UInt8} {a : α} {b : β}
    (determines : first.Determines bytes a) (later : (next a).Determines more b) :
    (first >>= next).Determines (bytes ++ more) b where
  accepts := determines.accepts.bind later.accepts
  shorter short isPrefix differs := by
    by_cases whole : bytes <+: short
    · obtain ⟨rest, rfl⟩ := whole
      refine .second determines.accepts (later.shorter rest ?_ ?_)
      · exact (List.prefix_append_right_inj bytes).mp isPrefix
      · intro same
        exact differs (by rw [same])
    · have within : short <+: bytes := by
        rcases List.prefix_or_prefix_of_prefix isPrefix (List.prefix_append bytes more) with
          isShort | isWhole
        · exact isShort
        · exact absurd isWhole whole
      refine .first (determines.shorter short within ?_) next
      rintro rfl
      exact whole (List.prefix_refl _)

end Determines

namespace PrefixDetermined

variable {n m : Nat}

theorem weaken {p : Parse α} (determined : p.PrefixDetermined m) (fits : m ≤ n) :
    p.PrefixDetermined n :=
  Reads.weaken determined fits fun _ _ holds => holds

theorem pure (a : α) : PrefixDetermined (Pure.pure a : Parse α) n :=
  Reads.pure (.of_nil (.pure a))

theorem invalid : PrefixDetermined (Parse.invalid : Parse α) n := Reads.invalid

theorem bind {first : Parse α} {next : α → Parse β} (fits : m ≤ n)
    (determined : first.PrefixDetermined m)
    (later : ∀ a, (next a).PrefixDetermined (n - m)) : PrefixDetermined (first >>= next) n := by
  refine Reads.bind fits determined ?_
  intro a taken determines
  exact Reads.weaken (later a) (Nat.le_refl _) fun _ _ more => determines.bind more

/-- Sequencing behind a parser of one byte. -/
theorem one {first : Parse α} {next : α → Parse β} (determined : first.PrefixDetermined 1)
    (later : ∀ a, (next a).PrefixDetermined n) : PrefixDetermined (first >>= next) (n + 1) :=
  bind (Nat.le_add_left 1 n) determined later

/-- A parser, and a value made from what it returns. -/
theorem map {p : Parse α} {f : α → β} (fits : m ≤ n) (determined : p.PrefixDetermined m) :
    PrefixDetermined (p >>= fun a => Pure.pure (f a)) n :=
  bind fits determined fun a => pure (f a)

/-! ### The macros -/

/-- `PARSE_BYTE_INTO_VALUE` refuses the end of the payload. -/
theorem byte : PrefixDetermined Parse.byte 1 := by
  refine Reads.byte.weaken (Nat.le_refl 1) ?_
  rintro _ b rfl
  refine ⟨.byte b, ?_⟩
  intro short isPrefix differs heap frame cursor never holds inside isRest a isOk
  have empty : short.length = 0 := by
    have length := isPrefix.length_le
    rcases Nat.lt_or_eq_of_le length with less | same
    · exact Nat.lt_one_iff.mp less
    · exact absurd (isPrefix.eq_of_length same) differs
  have left := length_drop_payload holds cursor.offset.toNat
  rw [isRest, empty] at left
  have atEnd : frame.payloadLength ≤ cursor.offset := by
    rw [UInt32.le_iff_toNat_le]
    omega
  unfold Parse.byte at isOk
  rw [if_pos atEnd] at isOk
  cases isOk

/-- `PARSE_ENUM_INTO_VALUE`. -/
theorem enum [ByteEnum α] : PrefixDetermined (Parse.enum : Parse α) 1 := by
  refine one byte ?_
  intro b
  cases (ByteEnum.ofByte b : Option α) with
  | none => exact invalid
  | some a => exact pure a

/-- `PARSE_ENUM_INTO_PACKET(fixed_value)`. -/
theorem fixedValue : PrefixDetermined Parse.fixedValue 1 := by
  refine one byte ?_
  intro b
  by_cases isZero : b = 0
  · rw [if_pos isZero]
    exact pure b
  · rw [if_neg isZero]
    exact invalid

/-- `PARSE_ALLOC_VALUE`. -/
theorem alloc : PrefixDetermined Parse.alloc 0 := by
  refine Reads.alloc.weaken (Nat.le_refl 0) ?_
  rintro _ _ rfl
  exact .of_nil .alloc

/-- `PARSE_BYTES_INTO_VALUE` refuses a payload with fewer bytes than announced. -/
theorem bytes (length : UInt8) : PrefixDetermined (Parse.bytes length) 255 := by
  refine (Reads.bytes length).weaken (Nat.le_refl 255) ?_
  rintro _ value ⟨rfl, isLength⟩
  refine ⟨.bytes isLength, ?_⟩
  intro short isPrefix differs heap frame cursor never holds inside isRest a isOk
  have fewer : short.length < length.toNat := by
    rw [← isLength]
    refine Nat.lt_of_le_of_ne isPrefix.length_le ?_
    intro same
    exact differs (isPrefix.eq_of_length same)
  have left := length_drop_payload holds cursor.offset.toNat
  rw [isRest] at left
  have small := holds.small
  have few := length.toNat_lt
  have beyond : frame.payloadLength < cursor.offset + length.toUInt32 := by
    rw [UInt32.lt_iff_toNat_lt, UInt32.toNat_add, UInt8.toNat_toUInt32]
    omega
  unfold Parse.bytes at isOk
  rw [if_pos beyond] at isOk
  cases isOk

/-- The loop of `PARSE_FOR_EACH_INTO_VALUE`, by induction on its count. -/
theorem times {element : Parse α} {size : Nat} (determined : element.PrefixDetermined size)
    (count : Nat) : PrefixDetermined (Parse.times element count) (count * size) := by
  induction count with
  | zero => exact pure []
  | succ count ih =>
    have split : (count + 1) * size = size + count * size := by
      rw [Nat.succ_mul, Nat.add_comm]
    rw [split]
    refine bind (Nat.le_add_right size _) determined ?_
    intro first
    rw [Nat.add_sub_cancel_left]
    exact map (Nat.le_refl _) ih

/-- `PARSE_FOR_EACH_INTO_VALUE`. -/
theorem forEach {element : Parse α} {size : Nat} (determined : element.PrefixDetermined size)
    (count : UInt8) : PrefixDetermined (Parse.forEach count element) (255 * size) := by
  refine bind (Nat.zero_le _) alloc ?_
  intro _
  have below : count.toNat ≤ 255 := Nat.le_of_lt_succ count.toNat_lt
  exact (times determined count.toNat).weaken (Nat.mul_le_mul_right size below)

/-- Bytes that such a parser accepts determine what it returns: it is run on these alone. -/
theorem determines {p : Parse α} (determined : p.PrefixDetermined n) {bytes : List UInt8} {a : α}
    (accepts : p.Accepts bytes a) (small : n + bytes.length < 2 ^ 32) :
    p.Determines bytes a := by
  let frame : Frame :=
    { dataType := 0, sequenceId := 0, payloadLength := UInt32.ofNat bytes.length, body := bytes }
  let cursor : Cursor := { offset := 0, errno := 0, mallocs := 0, reads := [] }
  have length : frame.payloadLength.toNat = bytes.length := by
    change (UInt32.ofNat bytes.length).toNat = bytes.length
    rw [UInt32.toNat_ofNat']
    omega
  have isPayload : frame.payload = bytes := by
    rw [Frame.payload, length]
    exact List.take_length
  have isNext : bytes <+: frame.payload.drop cursor.offset.toNat := by
    rw [isPayload]
    exact List.prefix_refl _
  have room : cursor.Room frame n :=
    { body := Nat.le_of_eq length
      inside := Nat.zero_le _
      wrap := by
        change 0 + n < 2 ^ 32
        omega }
  obtain ⟨after, ran, moved⟩ :=
    accepts (fun _ => some []) frame cursor (fun _ => rfl) (Nat.zero_le _) isNext
  have outcome := determined (fun _ => some []) frame cursor room
  rw [ran] at outcome
  have took : frame.between cursor after = bytes := by
    rw [Frame.between, moved]
    change bytes.take (0 + bytes.length - 0) = bytes
    rw [Nat.zero_add, Nat.sub_zero]
    exact List.take_length
  have read := outcome.sound a rfl
  rwa [took] at read

end PrefixDetermined
end Parse

end Libmdr
