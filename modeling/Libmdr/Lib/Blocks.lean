import Mathlib.Data.Finset.Erase
import Mathlib.Data.List.Induction
import Mathlib.Logic.Function.Basic

/-!
# Trees of allocated blocks

A block may hold an array whose elements have pointers to further blocks. A place is the way to
a pointer: the indices of the elements on the way down from the root block. Freeing what a pointer
leads to, first what lies below it, releases each of the blocks once when no block hangs at two
places.
-/

namespace Blocks
set_option autoImplicit false

variable {α : Type}

/-- `free`: nothing happens for a null pointer, and only allocated blocks can be freed. -/
def release [DecidableEq α] (pointer : Option α) (live : Finset α) : Option (Finset α) :=
  match pointer with
  | none => some live
  | some a => if a ∈ live then some (live.erase a) else none

/-- The pointers in a root block and below it, and the number of elements behind a pointer. -/
structure Tree (α : Type) where
  root : α
  pointer : List Nat → Option α
  count : List Nat → Nat

namespace Tree

/-- A root block with null pointers. -/
def empty (root : α) : Tree α := { root, pointer := fun _ => none, count := fun _ => 0 }

def setPointer (t : Tree α) (place : List Nat) (pointer : Option α) : Tree α :=
  { t with pointer := Function.update t.pointer place pointer }

def setCount (t : Tree α) (place : List Nat) (count : Nat) : Tree α :=
  { t with count := Function.update t.count place count }

@[simp] theorem setPointer_same (t : Tree α) (place : List Nat) (pointer : Option α) :
    (t.setPointer place pointer).pointer place = pointer := Function.update_self ..

theorem setPointer_other {place other : List Nat} (apart : other ≠ place) (t : Tree α)
    (pointer : Option α) : (t.setPointer place pointer).pointer other = t.pointer other :=
  Function.update_of_ne apart ..

theorem setCount_other {place other : List Nat} (apart : other ≠ place) (t : Tree α)
    (count : Nat) : (t.setCount place count).count other = t.count other :=
  Function.update_of_ne apart ..

@[simp] theorem setPointer_root (t : Tree α) (place : List Nat) (pointer : Option α) :
    (t.setPointer place pointer).root = t.root := rfl
@[simp] theorem setPointer_count (t : Tree α) (place : List Nat) (pointer : Option α) :
    (t.setPointer place pointer).count = t.count := rfl
@[simp] theorem setCount_same (t : Tree α) (place : List Nat) (count : Nat) :
    (t.setCount place count).count place = count := Function.update_self ..
@[simp] theorem setCount_root (t : Tree α) (place : List Nat) (count : Nat) :
    (t.setCount place count).root = t.root := rfl
@[simp] theorem setCount_pointer (t : Tree α) (place : List Nat) (count : Nat) :
    (t.setCount place count).pointer = t.pointer := rfl

/-- The block that holds the pointer at a place. -/
def holder (t : Tree α) (place : List Nat) : Option α :=
  if place = [] then some t.root else t.pointer place.dropLast

/-- The pointer at a place, in a block that has to be allocated. -/
def read [DecidableEq α] (t : Tree α) (place : List Nat) (live : Finset α) : Option (Option α) :=
  match t.holder place with
  | none => none
  | some a => if a ∈ live then some (t.pointer place) else none

/-- Frees what the pointer at a place leads to, with arrays of pointers to a depth. -/
def free [DecidableEq α] (t : Tree α) : Nat → List Nat → Finset α → Option (Finset α)
  | 0, place, live => do release (← t.read place live) live
  | depth + 1, place, live => do
    let pointer ← t.read place live
    let live ←
      if pointer.isSome then
        (List.range (t.count place)).foldlM (fun live i => t.free depth (place ++ [i]) live) live
      else some live
    release pointer live

/-- No block hangs at two places, and every pointer can be found from the root. -/
structure Placed (t : Tree α) (depth : Nat) : Prop where
  short : ∀ {place a}, t.pointer place = some a → place.length ≤ depth
  above : ∀ {place i a}, t.pointer (place ++ [i]) = some a →
    (t.pointer place).isSome ∧ i < t.count place
  once : ∀ {place other a}, t.pointer place = some a → t.pointer other = some a → place = other
  root : ∀ {place}, t.pointer place ≠ some t.root

namespace Placed

variable {t : Tree α} {depth : Nat}

/-- Below a null pointer there is nothing. -/
theorem below_null (placed : t.Placed depth) {place : List Nat} (null : t.pointer place = none)
    (rest : List Nat) : t.pointer (place ++ rest) = none := by
  induction rest using List.reverseRecOn with
  | nil => rwa [List.append_nil]
  | append_singleton rest i ih =>
    rw [Option.eq_none_iff_forall_ne_some]
    intro a here
    rw [← List.append_assoc] at here
    have parent := (placed.above here).1
    rw [ih] at parent
    cases parent

/-- What a run of `free` does: it releases what lies at the place and below it. -/
def Releases (t : Tree α) (place : List Nat) (live live' : Finset α) : Prop :=
  ∀ a, a ∈ live' ↔ a ∈ live ∧ ∀ rest, t.pointer (place ++ rest) ≠ some a

theorem holder_snoc (place : List Nat) (i : Nat) : t.holder (place ++ [i]) = t.pointer place := by
  simp [holder]

/-! ### Freeing -/

section Free

variable [DecidableEq α]

theorem read_eq {place : List Nat} {live : Finset α}
    (held : ∃ a, t.holder place = some a ∧ a ∈ live) :
    t.read place live = some (t.pointer place) := by
  obtain ⟨a, isHolder, isLive⟩ := held
  rw [read, isHolder]
  exact if_pos isLive

/-- The block at a place is released behind those below it. -/
theorem releases_last {place : List Nat} {live between : Finset α} {a : α}
    (placed : t.Placed depth) (here : t.pointer place = some a) (isLive : a ∈ live)
    (below : ∀ b, b ∈ between ↔ b ∈ live ∧ ∀ i rest, t.pointer (place ++ i :: rest) ≠ some b) :
    ∃ live', release (some a) between = some live' ∧ Releases t place live live' := by
  have still : a ∈ between := by
    refine (below a).mpr ⟨isLive, fun i rest again => ?_⟩
    have same := congrArg List.length (placed.once here again)
    simp only [List.length_append, List.length_cons] at same
    omega
  refine ⟨between.erase a, if_pos still, fun b => ?_⟩
  rw [Finset.mem_erase, below]
  constructor
  · rintro ⟨other, isLive, others⟩
    refine ⟨isLive, fun rest => ?_⟩
    cases rest with
    | nil =>
      rw [List.append_nil, here]
      exact fun same => other (Option.some.inj same).symm
    | cons i rest => exact others i rest
  · rintro ⟨isLive, others⟩
    refine ⟨?_, isLive, fun i rest => others (i :: rest)⟩
    rintro rfl
    exact others [] (by rw [List.append_nil, here])

/-- **Freeing a tree.** When the blocks at a place and below it are allocated, and the one that
holds the pointer, each of them is released once and no other. -/
theorem free_spec (placed : t.Placed depth) (left : Nat) (place : List Nat) (live : Finset α)
    (whole : place.length + left = depth) (held : ∃ a, t.holder place = some a ∧ a ∈ live)
    (owned : ∀ rest a, t.pointer (place ++ rest) = some a → a ∈ live) :
    ∃ live', t.free left place live = some live' ∧ Releases t place live live' := by
  induction left generalizing place live with
  | zero =>
    simp only [free, read_eq held, Option.bind_eq_bind, Option.bind_some]
    cases here : t.pointer place with
    | none =>
      refine ⟨live, rfl, fun a => ⟨fun isLive => ⟨isLive, fun rest => ?_⟩, And.left⟩⟩
      rw [placed.below_null here]
      exact nofun
    | some a =>
      refine placed.releases_last here (owned [] a (by rw [List.append_nil, here])) fun b => ?_
      refine ⟨fun isLive => ⟨isLive, fun i rest below => ?_⟩, And.left⟩
      have short := placed.short below
      simp only [List.length_append, List.length_cons] at short
      omega
  | succ left ih =>
    simp only [free, read_eq held, Option.bind_eq_bind, Option.bind_some]
    cases here : t.pointer place with
    | none =>
      refine ⟨live, rfl, fun a => ⟨fun isLive => ⟨isLive, fun rest => ?_⟩, And.left⟩⟩
      rw [placed.below_null here]
      exact nofun
    | some a =>
      have isLive : a ∈ live := owned [] a (by rw [List.append_nil, here])
      -- The elements are freed from the first one on.
      have loop (n : Nat) : ∃ between,
          (List.range n).foldlM (fun live i => t.free left (place ++ [i]) live) live =
            some between ∧
          ∀ b, b ∈ between ↔ b ∈ live ∧
            ∀ i, i < n → ∀ rest, t.pointer (place ++ i :: rest) ≠ some b := by
        induction n with
        | zero => exact ⟨live, rfl, fun b => ⟨fun isLive => ⟨isLive, nofun⟩, And.left⟩⟩
        | succ n first =>
          obtain ⟨between, ran, freed⟩ := first
          have apart {place' : List Nat} {b : α} (there : t.pointer place' = some b)
              (other : ∀ i, i < n → ∀ rest, place' ≠ place ++ i :: rest) (alive : b ∈ live) :
              b ∈ between :=
            (freed b).mpr ⟨alive, fun i small rest again => other i small rest
              (placed.once there again)⟩
          have held : ∃ b, t.holder (place ++ [n]) = some b ∧ b ∈ between := by
            refine ⟨a, by rw [holder_snoc, here], apart here (fun i _ rest same => ?_) isLive⟩
            have lengths := congrArg List.length same
            simp only [List.length_append, List.length_cons] at lengths
            omega
          obtain ⟨live', frees, released⟩ := ih (place ++ [n]) between
            (by simp only [List.length_append, List.length_singleton]; omega) held (by
              intro rest b there
              refine apart there (fun i small rest' same => ?_) (owned (n :: rest) b ?_)
              · simp only [List.append_assoc, List.cons_append, List.nil_append,
                  List.append_cancel_left_eq, List.cons.injEq] at same
                omega
              · simpa using there)
          refine ⟨live', by simp [List.range_succ, ran, frees], fun b => ?_⟩
          rw [released, freed]
          simp only [List.append_assoc, List.cons_append, List.nil_append]
          constructor
          · rintro ⟨⟨alive, early⟩, last⟩
            refine ⟨alive, fun i small rest => ?_⟩
            rcases Nat.lt_succ_iff_lt_or_eq.mp small with less | rfl
            · exact early i less rest
            · exact last rest
          · rintro ⟨alive, all⟩
            exact ⟨⟨alive, fun i small => all i (Nat.lt_succ_of_lt small)⟩,
              all n (Nat.lt_succ_self n)⟩
      obtain ⟨between, ran, freed⟩ := loop (t.count place)
      simp only [Option.isSome_some, if_true, ran, Option.bind_some]
      refine placed.releases_last here isLive fun b => ?_
      rw [freed]
      refine and_congr_right fun _ => ⟨fun counted i rest there => ?_, fun all i _ => all i⟩
      -- Behind the last element there is nothing.
      have parent : (t.pointer (place ++ [i])).isSome := by
        by_contra null
        rw [Bool.not_eq_true, Option.isSome_eq_false_iff, Option.isNone_iff_eq_none] at null
        have none := placed.below_null null rest
        rw [List.append_assoc, List.singleton_append, there] at none
        cases none
      obtain ⟨c, element⟩ := Option.isSome_iff_exists.mp parent
      exact counted i (placed.above element).2 rest there

end Free

/-! ### Filling in -/

/-- A place whose pointer can be set: it has a place above it that is counted. -/
def Open (t : Tree α) (place : List Nat) : Prop :=
  ∀ {above i}, place = above ++ [i] → (t.pointer above).isSome ∧ i < t.count above

/-- A pointer to a new block. -/
theorem setPointer_some (placed : t.Placed depth) {place : List Nat} {a : α}
    (short : place.length ≤ depth) (isOpen : Open t place) (new : a ≠ t.root)
    (unused : ∀ other, t.pointer other ≠ some a) :
    (t.setPointer place (some a)).Placed depth where
  short {other b} there := by
    by_cases same : other = place
    · rwa [same]
    · rw [setPointer_other same] at there
      exact placed.short there
  above {above i b} there := by
    have parent : (t.pointer above).isSome ∧ i < t.count above := by
      by_cases same : above ++ [i] = place
      · exact isOpen same.symm
      · rw [setPointer_other same] at there
        exact placed.above there
    refine ⟨?_, parent.2⟩
    by_cases same : above = place
    · rw [same, setPointer_same]
      rfl
    · rw [setPointer_other same]
      exact parent.1
  once {other other' b} there again := by
    by_cases first : other = place <;> by_cases second : other' = place
    · rw [first, second]
    · rw [first, setPointer_same] at there
      rw [setPointer_other second, ← there] at again
      exact absurd again (unused _)
    · rw [second, setPointer_same] at again
      rw [setPointer_other first, ← again] at there
      exact absurd there (unused _)
    · rw [setPointer_other first] at there
      rw [setPointer_other second] at again
      exact placed.once there again
  root {other} there := by
    by_cases same : other = place
    · rw [same, setPointer_same] at there
      exact new (Option.some.inj there)
    · rw [setPointer_other same] at there
      exact placed.root there

/-- A count may be set as long as there are no elements. -/
theorem setCount (placed : t.Placed depth) {place : List Nat} {n : Nat}
    (null : t.pointer place = none) : (t.setCount place n).Placed depth where
  short := placed.short
  above {above i a} there := by
    obtain ⟨parent, counted⟩ := placed.above there
    refine ⟨parent, ?_⟩
    have other : above ≠ place := by
      rintro rfl
      rw [null] at parent
      cases parent
    rw [setCount_other other]
    exact counted
  once := placed.once
  root := placed.root

end Placed

end Tree

end Blocks
