import Mathlib.Data.List.Basic
import Mathlib.Order.Lattice

/-!
# Groups of a sorted list

A list that is sorted by a key is its groups, the elements with one key, put one behind the other
in the order of the keys.
-/

namespace Groups
set_option autoImplicit false

variable {α κ : Type} [LinearOrder κ] (key : α → κ)

/-- The elements with a key. -/
def group (xs : List α) (k : κ) : List α := xs.filter fun x => decide (key x = k)

theorem mem_group {xs : List α} {k : κ} {x : α} : x ∈ group key xs k ↔ x ∈ xs ∧ key x = k := by
  rw [group, List.mem_filter, decide_eq_true_iff]

variable {key}

/-- With no smaller key in front, the first group stands before the other elements. -/
theorem group_append_rest {xs : List α} {k : κ}
    (sorted : xs.Pairwise fun a b => key a ≤ key b) (least : ∀ x ∈ xs, k ≤ key x) :
    group key xs k ++ xs.filter (fun x => decide (key x ≠ k)) = xs := by
  induction xs with
  | nil => rfl
  | cons x rest ih =>
    obtain ⟨first, sorted⟩ := List.pairwise_cons.mp sorted
    have later := ih sorted fun y isIn => least y (List.mem_cons_of_mem _ isIn)
    by_cases same : key x = k
    · rw [group, List.filter_cons_of_pos (by simpa using same),
        List.filter_cons_of_neg (by simpa using same), List.cons_append]
      exact congrArg _ later
    · -- All elements behind it have greater keys, so that the group is empty.
      have greater : ∀ y ∈ x :: rest, key y ≠ k := by
        intro y isIn equal
        rcases List.mem_cons.mp isIn with rfl | isRest
        · exact same equal
        · have between := first y isRest
          rw [equal] at between
          exact same (le_antisymm between (least x List.mem_cons_self))
      have none : group key (x :: rest) k = [] :=
        List.filter_eq_nil_iff.mpr fun y isIn => by simpa using greater y isIn
      rw [none, List.nil_append, List.filter_eq_self]
      exact fun y isIn => decide_eq_true (greater y isIn)

/-- A sorted list is its groups one behind the other. -/
theorem flatMap_group {xs : List α} {keys : List κ}
    (sorted : xs.Pairwise fun a b => key a ≤ key b) (increasing : keys.Pairwise (· < ·))
    (covers : ∀ x ∈ xs, key x ∈ keys) : keys.flatMap (group key xs) = xs := by
  induction keys generalizing xs with
  | nil =>
    have none : xs = [] := List.eq_nil_iff_forall_not_mem.mpr fun x isIn => by cases covers x isIn
    rw [none]
    rfl
  | cons k rest ih =>
    obtain ⟨first, increasing⟩ := List.pairwise_cons.mp increasing
    have least : ∀ x ∈ xs, k ≤ key x := by
      intro x isIn
      rcases List.mem_cons.mp (covers x isIn) with same | isRest
      · exact le_of_eq same.symm
      · exact le_of_lt (first _ isRest)
    have sortedOthers : (xs.filter fun x => decide (key x ≠ k)).Pairwise fun a b => key a ≤ key b :=
      sorted.filter _
    have others := ih sortedOthers increasing ?_
    · have same : ∀ k' ∈ rest, group key (xs.filter fun x => decide (key x ≠ k)) k' =
          group key xs k' := by
        intro k' isRest
        rw [group, List.filter_filter]
        refine List.filter_congr fun x _ => ?_
        by_cases equal : key x = k'
        · have other : key x ≠ k := by
            rw [equal]
            exact ne_of_gt (first k' isRest)
          simp [equal, equal ▸ other]
        · simp [equal]
      rw [List.flatMap_cons, ← List.flatMap_congr same, others]
      exact group_append_rest sorted least
    · intro x isIn
      obtain ⟨isIn, other⟩ := List.mem_filter.mp isIn
      rcases List.mem_cons.mp (covers x isIn) with same | isRest
      · exact absurd same (of_decide_eq_true other)
      · exact isRest

end Groups
