import Mathlib.Data.List.Basic

/-!
# Byte stuffing

A code that keeps a set of reserved symbols out of its output, the escape symbol
apart: a reserved symbol is sent as the escape symbol followed by a masked copy.
-/

namespace Stuffing
set_option autoImplicit false

/-- The parameters of a stuffing code, and why it can be undone. -/
structure Code (α : Type) where
  escape : α
  reserved : α → Bool
  mask : α → α
  unmask : α → α
  escape_reserved : reserved escape = true
  mask_free : ∀ a, reserved a = true → reserved (mask a) = false
  unmask_mask : ∀ a, reserved a = true → unmask (mask a) = a

variable {α : Type} [DecidableEq α] (code : Code α)

/-- What one symbol is sent as. -/
def encodeSymbol (a : α) : List α :=
  if code.reserved a then [code.escape, code.mask a] else [a]

/-- What a list is sent as. -/
def encode (symbols : List α) : List α := symbols.flatMap (encodeSymbol code)

omit [DecidableEq α] in
/-- A reserved symbol takes one symbol more. -/
theorem length_encode (symbols : List α) :
    (encode code symbols).length = symbols.length + symbols.countP code.reserved := by
  induction symbols with
  | nil => rfl
  | cons a rest ih =>
    have split : (encode code (a :: rest)).length =
        (encodeSymbol code a).length + (encode code rest).length := List.length_append
    rw [split, ih, List.length_cons, List.countP_cons]
    unfold encodeSymbol
    cases code.reserved a with
    | true =>
      change 2 + _ = _ + 1 + (_ + 1)
      omega
    | false =>
      change 1 + _ = _ + 1 + (_ + 0)
      omega

/-- Undo the stuffing. An escape symbol with nothing after it stands for itself. -/
def decode : List α → List α
  | [] => []
  | [a] => [a]
  | a :: b :: rest =>
    if a = code.escape then code.unmask b :: decode rest else a :: decode (b :: rest)

theorem decode_encodeSymbol (a : α) (rest : List α) :
    decode code (encodeSymbol code a ++ rest) = a :: decode code rest := by
  unfold encodeSymbol
  split
  · rename_i reserved
    simp [decode, code.unmask_mask a reserved]
  · rename_i free
    have plain : a ≠ code.escape := by
      rintro rfl
      exact free code.escape_reserved
    cases rest <;> simp [decode, plain]

/-- Decoding inverts encoding. -/
theorem decode_encode (symbols : List α) : decode code (encode code symbols) = symbols := by
  induction symbols with
  | nil => rfl
  | cons a rest ih =>
    change decode code (encodeSymbol code a ++ encode code rest) = _
    rw [decode_encodeSymbol, ih]

omit [DecidableEq α] in
/-- The escape symbol is the only reserved one in an encoded list. -/
theorem eq_escape_of_mem_encode {symbols : List α} {b : α} (sent : b ∈ encode code symbols)
    (reserved : code.reserved b = true) : b = code.escape := by
  obtain ⟨a, -, inSymbol⟩ := List.mem_flatMap.mp sent
  unfold encodeSymbol at inSymbol
  split at inSymbol
  · rename_i isReserved
    simp only [List.mem_cons, List.not_mem_nil, or_false] at inSymbol
    rcases inSymbol with rfl | rfl
    · rfl
    · simp [code.mask_free a isReserved] at reserved
  · rename_i free
    simp only [List.mem_singleton] at inSymbol
    subst inSymbol
    exact absurd reserved free

end Stuffing
