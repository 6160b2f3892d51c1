import Libmdr.Frame
import Libmdr.Lib.ByteEnum

/-!
# Reading and writing payloads

The `PARSE_*` and `WRITE_*` macros of `src/packet/util.h`. A parser walks over the
payload with a 32-bit offset and allocates what it stores; an encoder allocates a
frame of a size it computes first and then writes bytes into it.
-/

namespace Libmdr
set_option autoImplicit false

/-! ## Parsing -/

/-- Why a parser gives no packet. -/
inductive ParseFailure
  /-- `INVALID_FRAME`: NULL with errno `MDR_E_INVALID_FRAME`. -/
  | invalidFrame
  /-- An allocation failed: NULL with the errno of `malloc`. -/
  | noMemory
  /-- A read outside the frame's allocation, which has no defined result. -/
  | outOfBounds
  deriving DecidableEq, Repr

/-- One access to the payload: `payload[offset]`, or a `memcpy` from
`&payload[offset]`. -/
structure PayloadRead where
  offset : UInt32
  length : UInt8
  deriving DecidableEq, Repr

/-- Where a parser is in the payload, and what it may change of the host. The C code
keeps no `reads`: they record every access so far. -/
structure Cursor where
  offset : UInt32
  errno : Errno
  mallocs : Nat
  reads : List PayloadRead
  deriving DecidableEq, Repr

/-- The host after a parser has run. -/
def Cursor.onHost (cursor : Cursor) (h : Host) : Host :=
  { h with errno := cursor.errno, mallocs := cursor.mallocs }

/-- A parser of a frame's payload. -/
def Parse (α : Type) : Type := Heap → Frame → Cursor → Except ParseFailure α × Cursor

namespace Parse

variable {α β : Type}

def pure (a : α) : Parse α := fun _ _ cursor => (.ok a, cursor)

def bind (first : Parse α) (next : α → Parse β) : Parse β := fun heap frame cursor =>
  match first heap frame cursor with
  | (.ok a, cursor) => next a heap frame cursor
  | (.error failure, cursor) => (.error failure, cursor)

instance : Monad Parse where
  pure := pure
  bind := bind

/-- `INVALID_FRAME`. -/
def invalid : Parse α := fun _ _ cursor =>
  (.error .invalidFrame, { cursor with errno := mdrEInvalidFrame })

/-- `PARSE_BYTE_INTO_VALUE`. -/
def byte : Parse UInt8 := fun heap frame cursor =>
  if frame.payloadLength ≤ cursor.offset then invalid heap frame cursor
  else
    let read := { cursor with reads := cursor.reads ++ [⟨cursor.offset, 1⟩] }
    match frame.body[cursor.offset.toNat]? with
    | none => (.error .outOfBounds, read)
    | some b => (.ok b, { read with offset := cursor.offset + 1 })

/-- `PARSE_ENUM_INTO_VALUE`: the parsers list every value of the enumeration. -/
def enum [ByteEnum α] : Parse α := do
  let b ← byte
  match ByteEnum.ofByte b with
  | some a => pure a
  | none => invalid

/-- `PARSE_ENUM_INTO_PACKET(fixed_value)` with the one field 0. -/
def fixedValue : Parse UInt8 := do
  let b ← byte
  if b = 0 then pure b else invalid

/-- A `malloc` whose failure ends the parser. -/
def alloc : Parse Unit := fun heap _ cursor =>
  match heap cursor.mallocs with
  | none => (.error .noMemory, { cursor with mallocs := cursor.mallocs + 1, errno := enomem })
  | some _ => (.ok (), { cursor with mallocs := cursor.mallocs + 1 })

/-- `PARSE_BYTES_INTO_VALUE`. -/
def bytes (length : UInt8) : Parse (List UInt8) := fun heap frame cursor =>
  if frame.payloadLength < cursor.offset + length.toUInt32 then invalid heap frame cursor
  else
    match alloc heap frame cursor with
    | (.error failure, cursor) => (.error failure, cursor)
    | (.ok (), cursor) =>
      let read := { cursor with reads := cursor.reads ++ [⟨cursor.offset, length⟩] }
      let value := (frame.body.drop cursor.offset.toNat).take length.toNat
      if value.length < length.toNat then (.error .outOfBounds, read)
      else (.ok value, { read with offset := cursor.offset + length.toUInt32 })

/-- The loop of `PARSE_FOR_EACH_INTO_VALUE`. -/
def times (element : Parse α) : Nat → Parse (List α)
  | 0 => pure []
  | n + 1 => do
    let first ← element
    let rest ← times element n
    pure (first :: rest)

/-- `PARSE_FOR_EACH_INTO_VALUE`: allocate the array, then parse each element. -/
def forEach (count : UInt8) (element : Parse α) : Parse (List α) := do
  alloc
  times element count.toNat

end Parse

/-! ## Writing -/

/-- What an encoder does with one frame: the argument of `WRITE_START`, and the
bytes it writes after the type byte. -/
structure Layout where
  size : Nat
  bytes : List UInt8
  deriving DecidableEq, Repr

/-- The first `count` elements of an array, `none` when it has fewer. -/
def counted {α : Type} (count : UInt8) (array : List α) : Option (List α) :=
  if count.toNat ≤ array.length then some (array.take count.toNat) else none

/-- The first `n` bytes of a block. -/
def blockBytes (junk : List UInt8) (n : Nat) : List UInt8 :=
  (junk ++ List.replicate n 0).take n

/-- `WRITE_START(size)` and the writes that follow, into a new frame. Bytes that
are not written keep what the block held. `none` when a write falls outside the
block. -/
def Layout.write (heap : Heap) (type : UInt8) (layout : Layout) (h : Host) :
    Option (Option Frame × Host) :=
  match h.malloc heap with
  | (none, h) => some (none, h)
  | (some junk, h) =>
    let written := type :: layout.bytes
    let block := (blockBytes junk (8 + layout.size)).drop 6
    if block.length < written.length then none
    else
      some (some
        { dataType := frameDataTypeDataMdr
          sequenceId := 0
          payloadLength := UInt32.ofNat (1 + layout.size)
          body := written ++ block.drop written.length }, h)

/-- The frames that an encoder allocates one after the other; it returns the last. -/
def writeFrames (heap : Heap) (type : UInt8) : List Layout → Host → Option (Option Frame × Host)
  | [], h => some (none, h)
  | [layout], h => layout.write heap type h
  | layout :: rest, h => do
    match ← layout.write heap type h with
    | (none, h) => return (none, h)
    | (some _, h) => writeFrames heap type rest h

end Libmdr
