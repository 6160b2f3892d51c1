import Mathlib.Algebra.Order.BigOperators.Group.List
import Mathlib.Algebra.Order.Ring.Nat

/-!
# Encodings in pieces

Values of which each may have an encoding, `mapM` for encoding them all, and what the
pieces one behind the other have to do with sizes counted apart from them.
-/

namespace Pieces
set_option autoImplicit false

variable {α β : Type}

/-- A list is encoded from its first element on. -/
theorem mapM_cons_eq_some {f : α → Option β} {x : α} {xs : List α} {ys : List β} :
    (x :: xs).mapM f = some ys ↔ ∃ y rest, f x = some y ∧ xs.mapM f = some rest ∧ ys = y :: rest := by
  rw [List.mapM_cons]
  constructor
  · intro all
    obtain ⟨y, first, all⟩ := Option.bind_eq_some_iff.mp all
    obtain ⟨rest, others, last⟩ := Option.bind_eq_some_iff.mp all
    exact ⟨y, rest, first, others, (Option.some.inj last).symm⟩
  · rintro ⟨y, rest, first, others, rfl⟩
    rw [first, others]
    rfl

/-- Where every element has an encoding, so has the list. -/
theorem mapM_of_forall {f : α → Option β} {g : α → β} {xs : List α}
    (each : ∀ x ∈ xs, f x = some (g x)) : xs.mapM f = some (xs.map g) := by
  induction xs with
  | nil => rfl
  | cons x xs ih =>
    apply mapM_cons_eq_some.mpr
    exact ⟨g x, xs.map g, each x List.mem_cons_self,
      ih fun y isIn => each y (List.mem_cons_of_mem x isIn), rfl⟩

theorem mapM_isSome {f : α → Option β} {xs : List α} (each : ∀ x ∈ xs, (f x).isSome) :
    (xs.mapM f).isSome := by
  induction xs with
  | nil => rfl
  | cons x xs ih =>
    obtain ⟨y, first⟩ := Option.isSome_iff_exists.mp (each x List.mem_cons_self)
    obtain ⟨rest, others⟩ := Option.isSome_iff_exists.mp
      (ih fun z isIn => each z (List.mem_cons_of_mem x isIn))
    rw [mapM_cons_eq_some.mpr ⟨y, rest, first, others, rfl⟩]
    rfl

theorem mapM_length {f : α → Option β} {xs : List α} {ys : List β} (all : xs.mapM f = some ys) :
    ys.length = xs.length := by
  induction xs generalizing ys with
  | nil =>
    obtain rfl : [] = ys := Option.some.inj all
    rfl
  | cons x xs ih =>
    obtain ⟨y, rest, -, others, rfl⟩ := mapM_cons_eq_some.mp all
    rw [List.length_cons, List.length_cons, ih others]

/-- Every piece encodes an element. -/
theorem mapM_mem {f : α → Option β} {xs : List α} {ys : List β} (all : xs.mapM f = some ys)
    {y : β} (isIn : y ∈ ys) : ∃ x ∈ xs, f x = some y := by
  induction xs generalizing ys with
  | nil =>
    obtain rfl : [] = ys := Option.some.inj all
    cases isIn
  | cons x xs ih =>
    obtain ⟨first, rest, isFirst, others, rfl⟩ := mapM_cons_eq_some.mp all
    rcases List.mem_cons.mp isIn with rfl | isLater
    · exact ⟨x, List.mem_cons_self, isFirst⟩
    · obtain ⟨z, isElement, encoded⟩ := ih others isLater
      exact ⟨z, List.mem_cons_of_mem x isElement, encoded⟩

/-- Every element has a piece. -/
theorem mapM_some_of_mem {f : α → Option β} {xs : List α} {ys : List β} (all : xs.mapM f = some ys)
    {x : α} (isIn : x ∈ xs) : ∃ y, f x = some y := by
  induction xs generalizing ys with
  | nil => cases isIn
  | cons first xs ih =>
    obtain ⟨y, rest, isFirst, others, rfl⟩ := mapM_cons_eq_some.mp all
    rcases List.mem_cons.mp isIn with rfl | isLater
    · exact ⟨y, isFirst⟩
    · exact ih others isLater

/-- Sizes summed up in one pass are the length of the pieces made in another, if they
agree on each element. -/
theorem length_flatten {f : α → Option (List β)} {size : α → Option Nat} {xs : List α}
    {sizes : List Nat} {pieces : List (List β)} (counted : xs.mapM size = some sizes)
    (made : xs.mapM f = some pieces)
    (agree : ∀ x n piece, size x = some n → f x = some piece → piece.length = n) :
    pieces.flatten.length = sizes.sum := by
  induction xs generalizing sizes pieces with
  | nil =>
    obtain rfl : [] = sizes := Option.some.inj counted
    obtain rfl : [] = pieces := Option.some.inj made
    rfl
  | cons x xs ih =>
    obtain ⟨n, moreSizes, isSize, restCounted, rfl⟩ := mapM_cons_eq_some.mp counted
    obtain ⟨piece, morePieces, isPiece, restMade, rfl⟩ := mapM_cons_eq_some.mp made
    rw [List.flatten_cons, List.length_append, List.sum_cons, ih restCounted restMade,
      agree x n piece isSize isPiece]

/-- The same for sizes that every element has. -/
theorem length_flatten_map {f : α → Option (List β)} {size : α → Nat} {xs : List α}
    {pieces : List (List β)} (made : xs.mapM f = some pieces)
    (agree : ∀ x piece, f x = some piece → piece.length = size x) :
    pieces.flatten.length = (xs.map size).sum := by
  have counted : xs.mapM (fun x => some (size x)) = some (xs.map size) :=
    mapM_of_forall fun _ _ => rfl
  apply length_flatten counted made
  rintro x _ piece ⟨⟩ isPiece
  exact agree x piece isPiece

theorem sum_le {sizes : List Nat} {bound : Nat} (each : ∀ n ∈ sizes, n ≤ bound) :
    sizes.sum ≤ sizes.length * bound :=
  List.sum_le_card_nsmul sizes bound each

end Pieces
