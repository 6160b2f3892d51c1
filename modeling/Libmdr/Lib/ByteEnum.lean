import Mathlib.Data.List.Nodup

/-!
# Enumerations coded as bytes

An enumeration whose values are sent as one byte each. The instance carries why
the code can be read back: every value is listed, and no byte stands for two.
-/

set_option autoImplicit false

/-- An enumeration with a byte for each value. -/
class ByteEnum (α : Type) where
  byte : α → UInt8
  values : List α
  complete : ∀ a, a ∈ values
  nodup : (values.map byte).Nodup

namespace ByteEnum

variable {α : Type} [ByteEnum α]

/-- The value that a byte stands for. -/
def ofByte (b : UInt8) : Option α :=
  (values : List α).find? fun a => byte a == b

theorem byte_injective : Function.Injective (byte : α → UInt8) := fun a b same =>
  List.inj_on_of_nodup_map nodup (complete a) (complete b) same

/-- Reading back the byte of a value gives the value. -/
@[simp] theorem ofByte_byte (a : α) : ofByte (byte a) = some a := by
  unfold ofByte
  have found : ((values : List α).find? fun x => byte x == byte a).isSome := by
    rw [List.find?_isSome]
    exact ⟨a, complete a, beq_self_eq_true _⟩
  obtain ⟨b, isFound⟩ := Option.isSome_iff_exists.mp found
  have same := List.find?_some isFound
  rw [isFound, byte_injective (eq_of_beq same)]

/-- A byte that stands for a value is that value's byte. -/
theorem byte_of_ofByte {b : UInt8} {a : α} (read : ofByte b = some a) : byte a = b :=
  eq_of_beq (List.find?_some (p := fun x => byte x == b) read)

end ByteEnum
