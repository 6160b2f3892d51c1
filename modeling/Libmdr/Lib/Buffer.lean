import Mathlib.Data.List.Basic

/-!
# Buffers

The cells of an array, and those behind it, as a function of the index. A block copy writes a
list of values from an index on; a move copies a range that it may overlap.
-/

set_option autoImplicit false

/-- Cells from index 0 on. -/
abbrev Buffer (α : Type) := Nat → α

namespace Buffer

variable {α : Type}

/-- The `n` cells from index `i` on. -/
def slice (b : Buffer α) (i n : Nat) : List α := (List.range n).map fun k => b (i + k)

/-- The values are copied to the cells from index `i` on. -/
def put (b : Buffer α) (i : Nat) (values : List α) : Buffer α :=
  fun k => if k < i then b k else (values[k - i]?).getD (b k)

/-- `n` cells from index `source` on are moved to index `target`. -/
def move (b : Buffer α) (target source n : Nat) : Buffer α := b.put target (b.slice source n)

@[simp] theorem length_slice (b : Buffer α) (i n : Nat) : (b.slice i n).length = n := by
  rw [slice, List.length_map, List.length_range]

@[simp] theorem getElem_slice (b : Buffer α) (i n k : Nat) (small : k < (b.slice i n).length) :
    (b.slice i n)[k] = b (i + k) := by
  simp [slice]

@[simp] theorem slice_zero (b : Buffer α) (i : Nat) : b.slice i 0 = [] := rfl

theorem slice_append (b : Buffer α) (i n k : Nat) :
    b.slice i n ++ b.slice (i + n) k = b.slice i (n + k) := by
  rw [slice, slice, slice, List.range_add, List.map_append, List.map_map]
  simp only [Function.comp_def, Nat.add_assoc]

theorem take_slice (b : Buffer α) {i n k : Nat} (fewer : k ≤ n) :
    (b.slice i n).take k = b.slice i k := by
  obtain ⟨more, rfl⟩ := Nat.exists_eq_add_of_le fewer
  rw [← slice_append, List.take_left' (b.length_slice i k)]

theorem drop_slice (b : Buffer α) (i n k : Nat) :
    (b.slice i n).drop k = b.slice (i + k) (n - k) := by
  rcases Nat.le_total k n with fewer | more
  · obtain ⟨rest, rfl⟩ := Nat.exists_eq_add_of_le fewer
    rw [← slice_append, List.drop_left' (b.length_slice i k), Nat.add_sub_cancel_left]
  · rw [Nat.sub_eq_zero_of_le more, slice_zero]
    exact List.drop_of_length_le (by rw [length_slice]; exact more)

/-- Cells before the copy are left alone. -/
theorem slice_put_before (b : Buffer α) {i j n : Nat} (values : List α) (before : j + n ≤ i) :
    (b.put i values).slice j n = b.slice j n := by
  apply List.map_congr_left
  intro k isIn
  have small := List.mem_range.mp isIn
  exact if_pos (by omega)

/-- The copy can be read back. -/
theorem slice_put (b : Buffer α) (i : Nat) (values : List α) :
    (b.put i values).slice i values.length = values := by
  apply List.ext_getElem
  · rw [length_slice]
  · intro k inSlice inValues
    rw [getElem_slice, put, if_neg (by omega), Nat.add_sub_cancel_left,
      List.getElem?_eq_getElem inValues, Option.getD_some]

/-- Values that are copied behind the first cells follow them. -/
theorem slice_put_behind (b : Buffer α) (i n : Nat) (values : List α) :
    (b.put (i + n) values).slice i (n + values.length) = b.slice i n ++ values := by
  rw [← slice_append, slice_put_before b values (Nat.le_refl _), slice_put]

/-- The front of the cells that were moved. -/
theorem slice_move (b : Buffer α) (target source : Nat) {n k : Nat} (fewer : k ≤ n) :
    (b.move target source n).slice target k = b.slice source k := by
  have whole := b.slice_put target (b.slice source n)
  rw [length_slice] at whole
  rw [move, ← take_slice _ fewer, whole, take_slice _ fewer]

end Buffer
