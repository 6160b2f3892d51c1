import Libmdr.Packet.Codec

/-!
# What a parser reads

`Parse.Reads` says of a parser what holds whatever the payload is: it reads one byte
behind the other, stays in the payload, and what it returns fits the bytes it took.
`Parse.Accepts` says that a parser takes certain bytes and returns a certain value.
There is one rule for each of the `PARSE_*` macros and one for sequencing, so that a
parser built from them is handled without looking into them again.

The 32-bit sum of `PARSE_BYTES_INTO_VALUE` may wrap at offsets near 2^32. Therefore
`Reads` carries a bound on what the parser takes, and no packet comes near the limit.
-/

namespace Libmdr
set_option autoImplicit false

/-! ## Accesses and positions -/

/-- Accesses one behind the other, from `start` up to `stop`. -/
def Contiguous : Nat → List PayloadRead → Nat → Prop
  | start, [], stop => start = stop
  | start, read :: rest, stop =>
    read.offset.toNat = start ∧ Contiguous (start + read.length.toNat) rest stop

namespace Contiguous

theorem le {start stop : Nat} {reads : List PayloadRead} (run : Contiguous start reads stop) :
    start ≤ stop := by
  induction reads generalizing start with
  | nil => exact Nat.le_of_eq run
  | cons read rest ih =>
    have later := ih run.2
    omega

theorem append {start middle stop : Nat} {reads more : List PayloadRead}
    (run : Contiguous start reads middle) (next : Contiguous middle more stop) :
    Contiguous start (reads ++ more) stop := by
  induction reads generalizing start with
  | nil =>
    obtain rfl : start = middle := run
    exact next
  | cons read rest ih => exact ⟨run.1, ih run.2⟩

/-- Every access of a run ends before the run does. -/
theorem end_le {start stop : Nat} {reads : List PayloadRead} (run : Contiguous start reads stop)
    {read : PayloadRead} (isRead : read ∈ reads) :
    read.offset.toNat + read.length.toNat ≤ stop := by
  induction reads generalizing start with
  | nil => cases isRead
  | cons first rest ih =>
    rcases List.mem_cons.mp isRead with rfl | isLater
    · have later := le run.2
      have here := run.1
      omega
    · exact ih run.2 isLater

end Contiguous

/-- The bytes between two positions of a parser. -/
def Frame.between (frame : Frame) (before after : Cursor) : List UInt8 :=
  (frame.body.drop before.offset.toNat).take (after.offset.toNat - before.offset.toNat)

theorem Frame.between_self (frame : Frame) {before after : Cursor}
    (same : after.offset = before.offset) : frame.between before after = [] := by
  simp [between, same]

theorem Frame.between_append (frame : Frame) {before middle after : Cursor}
    (first : before.offset.toNat ≤ middle.offset.toNat)
    (second : middle.offset.toNat ≤ after.offset.toNat) :
    frame.between before after = frame.between before middle ++ frame.between middle after := by
  have whole : after.offset.toNat - before.offset.toNat
      = (middle.offset.toNat - before.offset.toNat)
        + (after.offset.toNat - middle.offset.toNat) := by omega
  have start : before.offset.toNat + (middle.offset.toNat - before.offset.toNat)
      = middle.offset.toNat := by omega
  simp only [between]
  rw [whole, List.take_add, List.drop_drop, start]

namespace Cursor

/-- A frame that holds its payload, and a position in it from which `n` bytes do not
reach 2^32. -/
structure Room (frame : Frame) (n : Nat) (cursor : Cursor) : Prop where
  body : frame.payloadLength.toNat ≤ frame.body.length
  inside : cursor.offset.toNat ≤ frame.payloadLength.toNat
  wrap : cursor.offset.toNat + n < 2 ^ 32

/-- From one position to a later one: at most `n` bytes on, inside the payload, and
with accesses that cover exactly what lies between. -/
structure Advances (frame : Frame) (n : Nat) (before after : Cursor) : Prop where
  bounded : after.offset.toNat ≤ before.offset.toNat + n
  inside : after.offset.toNat ≤ frame.payloadLength.toNat
  reads : ∃ reads, after.reads = before.reads ++ reads ∧
    Contiguous before.offset.toNat reads after.offset.toNat

variable {frame : Frame} {n m : Nat} {before middle after : Cursor}

theorem Room.mono (room : before.Room frame n) (fits : m ≤ n) : before.Room frame m where
  body := room.body
  inside := room.inside
  wrap := by
    have wrap := room.wrap
    omega

/-- A step that reads nothing. -/
theorem Room.stays (room : before.Room frame n) (offset : after.offset = before.offset)
    (reads : after.reads = before.reads) : before.Advances frame n after where
  bounded := by
    rw [offset]
    exact Nat.le_add_right _ _
  inside := by
    rw [offset]
    exact room.inside
  reads := by
    refine ⟨[], by rw [reads, List.append_nil], ?_⟩
    rw [offset]
    rfl

namespace Advances

theorem forward (step : before.Advances frame n after) :
    before.offset.toNat ≤ after.offset.toNat := by
  obtain ⟨_, _, run⟩ := step.reads
  exact run.le

theorem mono (step : before.Advances frame m after) (fits : m ≤ n) :
    before.Advances frame n after where
  bounded := Nat.le_trans step.bounded (Nat.add_le_add_left fits _)
  inside := step.inside
  reads := step.reads

theorem trans (first : before.Advances frame m middle) (fits : m ≤ n)
    (second : middle.Advances frame (n - m) after) : before.Advances frame n after where
  bounded := by
    have here := first.bounded
    have there := second.bounded
    omega
  inside := second.inside
  reads := by
    obtain ⟨reads, isReads, run⟩ := first.reads
    obtain ⟨more, isMore, next⟩ := second.reads
    exact ⟨reads ++ more, by rw [isMore, isReads, List.append_assoc], run.append next⟩

/-- What is left of the room after a step. -/
theorem room (step : before.Advances frame m after) (fits : m ≤ n)
    (start : before.Room frame n) : after.Room frame (n - m) where
  body := start.body
  inside := step.inside
  wrap := by
    have bounded := step.bounded
    have wrap := start.wrap
    omega

end Advances
end Cursor

/-! ## What holds of every run of a parser -/

namespace Parse

variable {α β : Type}

/-- One run of a parser: where it ends, that every access was to the frame, and what
its value has to do with the bytes it took. -/
structure Outcome (frame : Frame) (n : Nat) (post : List UInt8 → α → Prop) (before : Cursor)
    (run : Except ParseFailure α × Cursor) : Prop where
  advances : before.Advances frame n run.2
  safe : run.1 ≠ .error .outOfBounds
  sound : ∀ a, run.1 = .ok a → post (frame.between before run.2) a

/-- A parser that takes at most `n` bytes, all in the payload, and relates them to what
it returns. -/
def Reads (p : Parse α) (n : Nat) (post : List UInt8 → α → Prop) : Prop :=
  ∀ (heap : Heap) (frame : Frame) (cursor : Cursor),
    cursor.Room frame n → Outcome frame n post cursor (p heap frame cursor)

/-- A run that fails without a further access. -/
theorem Outcome.fails {frame : Frame} {n : Nat} {post : List UInt8 → α → Prop} {before : Cursor}
    (room : before.Room frame n) {failure : ParseFailure} (known : failure ≠ .outOfBounds)
    {after : Cursor} (offset : after.offset = before.offset) (reads : after.reads = before.reads) :
    Outcome frame n post before (.error failure, after) where
  advances := room.stays offset reads
  safe failed := known (Except.error.inj failed)
  sound := by
    intro a isOk
    cases isOk

/-- A run that makes one access and returns. -/
theorem Outcome.took {frame : Frame} {n : Nat} {post : List UInt8 → α → Prop}
    {before after : Cursor} {a : α} (length : UInt8) (fits : length.toNat ≤ n)
    (inside : before.offset.toNat + length.toNat ≤ frame.payloadLength.toNat)
    (moved : after.offset.toNat = before.offset.toNat + length.toNat)
    (reads : after.reads = before.reads ++ [⟨before.offset, length⟩])
    (holds : post ((frame.body.drop before.offset.toNat).take length.toNat) a) :
    Outcome frame n post before (.ok a, after) where
  advances :=
    { bounded := by
        rw [moved]
        exact Nat.add_le_add_left fits _
      inside := by
        rw [moved]
        exact inside
      reads := ⟨_, reads, rfl, moved.symm⟩ }
  safe := by
    intro failed
    cases failed
  sound := by
    intro b isOk
    cases isOk
    have span : after.offset.toNat - before.offset.toNat = length.toNat := by omega
    simp only [Frame.between, span]
    exact holds

namespace Reads

variable {n m : Nat} {post : List UInt8 → α → Prop}

theorem weaken {p : Parse α} (reads : p.Reads m post) {weaker : List UInt8 → α → Prop}
    (fits : m ≤ n) (imp : ∀ bytes a, post bytes a → weaker bytes a) : p.Reads n weaker := by
  intro heap frame cursor room
  have outcome := reads heap frame cursor (room.mono fits)
  exact
    { advances := outcome.advances.mono fits
      safe := outcome.safe
      sound := fun a isOk => imp _ a (outcome.sound a isOk) }

/-- What a parser takes is no longer than its bound. -/
theorem bounded {p : Parse α} (reads : p.Reads n post) :
    p.Reads n fun taken a => taken.length ≤ n ∧ post taken a := by
  intro heap frame cursor room
  have outcome := reads heap frame cursor room
  refine { advances := outcome.advances, safe := outcome.safe, sound := ?_ }
  intro a isOk
  have span := outcome.advances.bounded
  refine ⟨Nat.le_trans (List.length_take_le _ _) ?_, outcome.sound a isOk⟩
  omega

theorem pure {a : α} (holds : post [] a) : Reads (Pure.pure a : Parse α) n post := by
  intro heap frame cursor room
  exact
    { advances := room.stays rfl rfl
      safe := by
        intro failed
        cases failed
      sound := by
        intro b isOk
        cases isOk
        change post (frame.between cursor cursor) a
        rw [frame.between_self rfl]
        exact holds }

theorem invalid : Reads (Parse.invalid : Parse α) n post := by
  intro heap frame cursor room
  apply Outcome.fails room
  · decide
  · rfl
  · rfl

/-- Sequencing: the second parser sees what the first one returned and took. -/
theorem bind {first : Parse α} {next : α → Parse β} {firstPost : List UInt8 → α → Prop}
    {lastPost : List UInt8 → β → Prop} (fits : m ≤ n) (reads : first.Reads m firstPost)
    (nextReads : ∀ a taken, firstPost taken a →
      (next a).Reads (n - m) fun bytes b => lastPost (taken ++ bytes) b) :
    Reads (first >>= next) n lastPost := by
  intro heap frame cursor room
  have outcome := reads heap frame cursor (room.mono fits)
  change Outcome frame n lastPost cursor (Parse.bind first next heap frame cursor)
  unfold Parse.bind
  rcases ran : first heap frame cursor with ⟨result, middle⟩
  rw [ran] at outcome
  cases result with
  | error failure =>
    refine { advances := outcome.advances.mono fits, safe := ?_, sound := ?_ }
    · intro failed
      exact outcome.safe (by rw [Except.error.inj failed])
    · intro b isOk
      cases isOk
  | ok a =>
    have later := nextReads a _ (outcome.sound a rfl) heap frame middle
      (outcome.advances.room fits room)
    refine { advances := outcome.advances.trans fits later.advances, safe := later.safe, sound := ?_ }
    intro b isOk
    rw [frame.between_append outcome.advances.forward later.advances.forward]
    exact later.sound b isOk

/-- Sequencing behind a parser of one byte. -/
theorem one {first : Parse α} {next : α → Parse β} {firstPost : List UInt8 → α → Prop}
    {lastPost : List UInt8 → β → Prop} (reads : first.Reads 1 firstPost)
    (nextReads : ∀ a taken, firstPost taken a →
      (next a).Reads n fun bytes b => lastPost (taken ++ bytes) b) :
    Reads (first >>= next) (n + 1) lastPost :=
  bind (Nat.le_add_left 1 n) reads nextReads

/-- A parser, and a value made from what it returns. -/
theorem map {p : Parse α} {f : α → β} {post : List UInt8 → α → Prop}
    {lastPost : List UInt8 → β → Prop} (fits : m ≤ n) (reads : p.Reads m post)
    (imp : ∀ taken a, post taken a → lastPost taken (f a)) :
    Reads (p >>= fun a => Pure.pure (f a)) n lastPost := by
  refine bind fits reads ?_
  intro a taken holds
  apply pure
  rw [List.append_nil]
  exact imp taken a holds

/-! ### The macros -/

/-- `PARSE_BYTE_INTO_VALUE`. -/
theorem byte : Reads Parse.byte 1 fun taken b => taken = [b] := by
  intro heap frame cursor room
  have inBody := room.body
  unfold Parse.byte
  by_cases atEnd : frame.payloadLength ≤ cursor.offset
  · rw [if_pos atEnd]
    exact invalid heap frame cursor room
  · rw [if_neg atEnd]
    have before : cursor.offset.toNat < frame.payloadLength.toNat := by
      rw [UInt32.le_iff_toNat_le] at atEnd
      omega
    have small := frame.payloadLength.toNat_lt
    have moved : (cursor.offset + 1).toNat = cursor.offset.toNat + 1 := by
      rw [UInt32.toNat_add, show (1 : UInt32).toNat = 1 from rfl]
      omega
    obtain ⟨b, isByte⟩ : ∃ b, frame.body[cursor.offset.toNat]? = some b :=
      ⟨_, List.getElem?_eq_getElem (Nat.lt_of_lt_of_le before inBody)⟩
    rw [isByte]
    apply Outcome.took 1 (Nat.le_refl 1) before moved rfl
    rw [show (1 : UInt8).toNat = 1 from rfl, List.take_one, List.head?_drop, isByte]
    rfl

/-- `PARSE_ENUM_INTO_VALUE`. -/
theorem enum [ByteEnum α] :
    Reads (Parse.enum : Parse α) 1 fun taken a => taken = [ByteEnum.byte a] := by
  refine one byte ?_
  rintro b _ rfl
  cases found : (ByteEnum.ofByte b : Option α) with
  | none => exact invalid
  | some a =>
    apply pure
    rw [ByteEnum.byte_of_ofByte found]
    rfl

/-- `PARSE_ENUM_INTO_PACKET(fixed_value)`. -/
theorem fixedValue : Reads Parse.fixedValue 1 fun taken b => taken = [b] ∧ b = 0 := by
  refine one byte ?_
  rintro b _ rfl
  by_cases isZero : b = 0
  · rw [if_pos isZero]
    exact pure ⟨rfl, isZero⟩
  · rw [if_neg isZero]
    exact invalid

/-- `PARSE_ALLOC_VALUE`. -/
theorem alloc : Reads Parse.alloc 0 fun taken _ => taken = [] := by
  intro heap frame cursor room
  unfold Parse.alloc
  cases heap cursor.mallocs with
  | none =>
    apply Outcome.fails room
    · decide
    · rfl
    · rfl
  | some block =>
    refine ⟨room.stays rfl rfl, ?_, ?_⟩
    · intro failed
      cases failed
    · intro _ _
      exact frame.between_self rfl

/-- An allocation leaves the position and the accesses as they are. -/
theorem alloc_stays (heap : Heap) (frame : Frame) (cursor : Cursor) :
    (Parse.alloc heap frame cursor).2.offset = cursor.offset ∧
      (Parse.alloc heap frame cursor).2.reads = cursor.reads := by
  unfold Parse.alloc
  cases heap cursor.mallocs <;> exact ⟨rfl, rfl⟩

/-- `PARSE_BYTES_INTO_VALUE`: the room keeps the 32-bit sum from wrapping. -/
theorem bytes (length : UInt8) :
    Reads (Parse.bytes length) 255 fun taken value =>
      taken = value ∧ value.length = length.toNat := by
  intro heap frame cursor room
  have short : length.toNat ≤ 255 := Nat.le_of_lt_succ length.toNat_lt
  have inBody := room.body
  have wrap := room.wrap
  have moved : (cursor.offset + length.toUInt32).toNat
      = cursor.offset.toNat + length.toNat := by
    rw [UInt32.toNat_add, UInt8.toNat_toUInt32]
    omega
  unfold Parse.bytes
  by_cases beyond : frame.payloadLength < cursor.offset + length.toUInt32
  · rw [if_pos beyond]
    exact invalid heap frame cursor room
  · rw [if_neg beyond]
    rw [UInt32.lt_iff_toNat_lt, moved] at beyond
    have outcome := alloc heap frame cursor (room.mono (Nat.zero_le 255))
    obtain ⟨offset, reads⟩ := alloc_stays heap frame cursor
    rcases ran : Parse.alloc heap frame cursor with ⟨result, after⟩
    rw [ran] at outcome offset reads
    simp only at offset reads
    cases result with
    | error failure =>
      refine Outcome.fails room ?_ offset reads
      intro failed
      exact outcome.safe (by rw [failed])
    | ok _ =>
      have enough : ((frame.body.drop cursor.offset.toNat).take length.toNat).length
          = length.toNat := by
        rw [List.length_take, List.length_drop]
        omega
      simp only [offset, reads, enough, Nat.lt_irrefl, if_false]
      exact Outcome.took length short (Nat.le_of_not_lt beyond) moved rfl ⟨rfl, enough⟩

/-- The loop of `PARSE_FOR_EACH_INTO_VALUE`, by induction on its count: each element
takes its own bytes, one element behind the other. -/
theorem times {element : Parse α} {size : Nat} {each : List UInt8 → α → Prop}
    (reads : element.Reads size each) (count : Nat) :
    Reads (Parse.times element count) (count * size) fun taken values =>
      values.length = count ∧ ∃ items : List (List UInt8 × α),
        taken = items.flatMap Prod.fst ∧ values = items.map Prod.snd ∧
          ∀ item ∈ items, each item.1 item.2 := by
  induction count with
  | zero =>
    apply pure
    exact ⟨rfl, [], rfl, rfl, fun _ isIn => nomatch isIn⟩
  | succ count ih =>
    have split : (count + 1) * size = size + count * size := by
      rw [Nat.succ_mul, Nat.add_comm]
    rw [split]
    refine bind (Nat.le_add_right size _) reads ?_
    intro first taken isFirst
    rw [Nat.add_sub_cancel_left]
    refine bind (Nat.le_refl _) ih ?_
    rintro _ _ ⟨length, items, rfl, rfl, isEach⟩
    apply pure
    refine ⟨by rw [List.length_cons, length], (taken, first) :: items, ?_, rfl, ?_⟩
    · rw [List.append_nil, List.flatMap_cons]
    · intro item isIn
      rcases List.mem_cons.mp isIn with rfl | isLater
      · exact isFirst
      · exact isEach item isLater

/-- `PARSE_FOR_EACH_INTO_VALUE`. -/
theorem forEach {element : Parse α} {size : Nat} {each : List UInt8 → α → Prop}
    (reads : element.Reads size each) (count : UInt8) :
    Reads (Parse.forEach count element) (255 * size) fun taken values =>
      values.length = count.toNat ∧ ∃ items : List (List UInt8 × α),
        taken = items.flatMap Prod.fst ∧ values = items.map Prod.snd ∧
          ∀ item ∈ items, each item.1 item.2 := by
  refine bind (Nat.zero_le _) alloc ?_
  rintro _ _ rfl
  have below : count.toNat ≤ 255 := Nat.le_of_lt_succ count.toNat_lt
  exact (times reads count.toNat).weaken (Nat.mul_le_mul_right size below) fun _ _ holds => holds

/-- `PARSE_FOR_EACH_INTO_VALUE` where an element is what it takes, read back. -/
theorem forEach_encoded {element : Parse α} {size : Nat} {good : α → Prop}
    {encode : α → List UInt8} (reads : element.Reads size fun taken a => good a ∧ taken = encode a)
    (count : UInt8) :
    Reads (Parse.forEach count element) (255 * size) fun taken values =>
      values.length = count.toNat ∧ (∀ a ∈ values, good a) ∧ taken = values.flatMap encode := by
  refine (forEach reads count).weaken (Nat.le_refl _) ?_
  rintro _ _ ⟨length, items, rfl, rfl, isEach⟩
  refine ⟨length, ?_, ?_⟩
  · intro a isIn
    obtain ⟨item, isItem, rfl⟩ := List.mem_map.mp isIn
    exact (isEach item isItem).1
  · rw [List.flatMap_map]
    exact List.flatMap_congr fun item isItem => (isEach item isItem).2

end Reads

end Parse

/-! ## What a parser accepts -/

/-- Every allocation succeeds, also one of no bytes. -/
def Heap.NeverFails (heap : Heap) : Prop := ∀ i, (heap i).isSome

theorem Heap.NeverFails.malloc {heap : Heap} (never : NeverFails heap) (h : Host) :
    (h.malloc heap).1.isSome := by
  obtain ⟨junk, isBlock⟩ := Option.isSome_iff_exists.mp (never h.mallocs)
  rw [Host.malloc, isBlock]
  rfl

namespace Parse

variable {α β : Type}

/-- Wherever `bytes` are next in the payload, the parser takes just these and returns `a`,
if no allocation fails. -/
def Accepts (p : Parse α) (bytes : List UInt8) (a : α) : Prop :=
  ∀ (heap : Heap) (frame : Frame) (cursor : Cursor), heap.NeverFails →
    cursor.offset.toNat ≤ frame.payloadLength.toNat →
    bytes <+: frame.payload.drop cursor.offset.toNat →
    ∃ after, p heap frame cursor = (.ok a, after) ∧
      after.offset.toNat = cursor.offset.toNat + bytes.length

/-- Bytes that are next in the payload end inside it. -/
theorem le_of_prefix_drop {frame : Frame} {offset : Nat} {bytes : List UInt8}
    (inside : offset ≤ frame.payloadLength.toNat) (isNext : bytes <+: frame.payload.drop offset) :
    offset + bytes.length ≤ frame.payloadLength.toNat := by
  have length := isNext.length_le
  rw [Frame.payload, List.length_drop, List.length_take] at length
  omega

namespace Accepts

theorem pure (a : α) : Accepts (Pure.pure a : Parse α) [] a := by
  intro heap frame cursor never inside isNext
  exact ⟨cursor, rfl, rfl⟩

theorem bind {first : Parse α} {next : α → Parse β} {bytes more : List UInt8} {a : α} {b : β}
    (accepts : first.Accepts bytes a) (nextAccepts : (next a).Accepts more b) :
    Accepts (first >>= next) (bytes ++ more) b := by
  intro heap frame cursor never inside isNext
  obtain ⟨rest, isRest⟩ := isNext
  rw [List.append_assoc] at isRest
  have isFirst : bytes <+: frame.payload.drop cursor.offset.toNat := ⟨_, isRest⟩
  obtain ⟨middle, ran, moved⟩ := accepts heap frame cursor never inside isFirst
  have left : frame.payload.drop middle.offset.toNat = more ++ rest := by
    rw [moved, ← List.drop_drop, ← isRest, List.drop_left]
  have stays := le_of_prefix_drop inside isFirst
  rw [← moved] at stays
  obtain ⟨after, ranNext, movedOn⟩ := nextAccepts heap frame middle never stays ⟨rest, left.symm⟩
  refine ⟨after, ?_, ?_⟩
  · change Parse.bind first next heap frame cursor = _
    rw [Parse.bind, ran]
    exact ranNext
  · rw [movedOn, moved, List.length_append, Nat.add_assoc]

/-- A parser, and a value made from what it returns. -/
theorem map {p : Parse α} {bytes : List UInt8} {a : α} (f : α → β) (accepts : p.Accepts bytes a) :
    Accepts (p >>= fun a => Pure.pure (f a)) bytes (f a) := by
  rw [← List.append_nil bytes]
  exact bind accepts (pure (f a))

theorem byte (b : UInt8) : Accepts Parse.byte [b] b := by
  intro heap frame cursor never inside isNext
  have before := le_of_prefix_drop inside isNext
  rw [List.length_singleton] at before
  have isByte : frame.body[cursor.offset.toNat]? = some b := by
    obtain ⟨rest, isRest⟩ := isNext
    have isHead : (frame.payload.drop cursor.offset.toNat)[0]? = some b := by rw [← isRest]; rfl
    rw [List.getElem?_drop, Frame.payload, Nat.add_zero, List.getElem?_take_of_lt before] at isHead
    exact isHead
  have small := frame.payloadLength.toNat_lt
  have notEnd : ¬ frame.payloadLength ≤ cursor.offset := by
    rw [UInt32.le_iff_toNat_le]
    omega
  unfold Parse.byte
  rw [if_neg notEnd, isByte]
  refine ⟨_, rfl, ?_⟩
  change (cursor.offset + 1).toNat = _
  rw [UInt32.toNat_add, show (1 : UInt32).toNat = 1 from rfl, List.length_singleton]
  omega

theorem enum [ByteEnum α] (a : α) : Accepts (Parse.enum : Parse α) [ByteEnum.byte a] a := by
  refine bind (byte (ByteEnum.byte a)) ?_
  rw [ByteEnum.ofByte_byte]
  exact pure a

theorem fixedValue : Accepts Parse.fixedValue [0] 0 := bind (byte 0) (pure 0)

theorem alloc : Accepts Parse.alloc [] () := by
  intro heap frame cursor never inside isNext
  obtain ⟨block, isBlock⟩ := Option.isSome_iff_exists.mp (never cursor.mallocs)
  unfold Parse.alloc
  rw [isBlock]
  exact ⟨_, rfl, rfl⟩

theorem bytes {length : UInt8} {value : List UInt8} (isLength : value.length = length.toNat) :
    Accepts (Parse.bytes length) value value := by
  intro heap frame cursor never inside isNext
  have before := le_of_prefix_drop inside isNext
  have small := frame.payloadLength.toNat_lt
  have moved : (cursor.offset + length.toUInt32).toNat = cursor.offset.toNat + length.toNat := by
    rw [UInt32.toNat_add, UInt8.toNat_toUInt32]
    omega
  have fits : ¬ frame.payloadLength < cursor.offset + length.toUInt32 := by
    rw [UInt32.lt_iff_toNat_lt, moved]
    omega
  obtain ⟨after, ran, stays⟩ := alloc heap frame cursor never inside (List.nil_prefix)
  have same : after.offset = cursor.offset := UInt32.toNat_inj.mp stays
  have isValue : (frame.body.drop after.offset.toNat).take length.toNat = value := by
    have isTaken := List.prefix_iff_eq_take.mp isNext
    rw [Frame.payload, List.drop_take, List.take_take, isLength,
      Nat.min_eq_left (by omega)] at isTaken
    rw [same]
    exact isTaken.symm
  unfold Parse.bytes
  rw [if_neg fits, ran]
  simp only [isValue, isLength, Nat.lt_irrefl, if_false]
  refine ⟨_, rfl, ?_⟩
  change (after.offset + length.toUInt32).toNat = _
  rw [same, moved]

/-- The loop of `PARSE_FOR_EACH_INTO_VALUE`, by induction on the elements. -/
theorem times {element : Parse α} {encode : α → List UInt8} {values : List α}
    (each : ∀ a ∈ values, element.Accepts (encode a) a) :
    Accepts (Parse.times element values.length) (values.flatMap encode) values := by
  induction values with
  | nil => exact pure []
  | cons first rest ih =>
    have others := ih fun a isIn => each a (List.mem_cons_of_mem first isIn)
    rw [List.flatMap_cons]
    exact bind (each first List.mem_cons_self) (map (first :: ·) others)

theorem forEach {element : Parse α} {encode : α → List UInt8} {values : List α} {count : UInt8}
    (length : values.length = count.toNat) (each : ∀ a ∈ values, element.Accepts (encode a) a) :
    Accepts (Parse.forEach count element) (values.flatMap encode) values := by
  refine bind alloc ?_
  rw [← length]
  exact times each

/-- An array of enumerated values, a byte for each. -/
theorem forEach_enum [ByteEnum α] {values : List α} {count : UInt8}
    (length : values.length = count.toNat) :
    Accepts (Parse.forEach count Parse.enum) (values.map ByteEnum.byte) values := by
  rw [List.map_eq_flatMap]
  exact forEach length fun a _ => enum a

end Accepts
end Parse

end Libmdr
