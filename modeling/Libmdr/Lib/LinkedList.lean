import Mathlib.Data.List.AList

/-!
# Singly linked lists in a memory

Nodes are known by their addresses, and a memory holds the `next` pointer of every node
that is allocated. A segment is the list of the nodes that are visited from one pointer
to another. A segment that ends with NULL is determined by its first pointer, so it
visits no node twice.
-/

namespace LinkedList
set_option autoImplicit false

/-- The `next` pointers of the allocated nodes; NULL is `none`. -/
abbrev Memory (α : Type) := AList fun _ : α => Option α

instance {α : Type} [Repr α] : Repr (Memory α) := ⟨fun next prec => reprPrec next.entries prec⟩

variable {α : Type} [DecidableEq α]

/-- The nodes from the pointer `p` up to the pointer `q`. -/
inductive Segment (next : Memory α) : Option α → List α → Option α → Prop
  | nil (p : Option α) : Segment next p [] p
  | cons {a : α} {p q : Option α} {as : List α} (read : next.lookup a = some p)
      (rest : Segment next p as q) : Segment next (some a) (a :: as) q

namespace Segment

variable {next other : Memory α} {p q r : Option α} {a b : α} {as bs : List α}

theorem append (front : Segment next p as q) (back : Segment next q bs r) :
    Segment next p (as ++ bs) r := by
  induction front with
  | nil => exact back
  | cons read _ ih => exact .cons read (ih back)

theorem split (whole : Segment next p (as ++ bs) r) :
    ∃ q, Segment next p as q ∧ Segment next q bs r := by
  induction as generalizing p with
  | nil => exact ⟨p, .nil p, whole⟩
  | cons a as ih =>
    cases whole with
    | cons read rest =>
      obtain ⟨q, front, back⟩ := ih rest
      exact ⟨q, .cons read front, back⟩

/-- A list starts with the pointer to its first node. -/
theorem head (whole : Segment next p as none) : p = as.head? := by
  cases as with
  | nil =>
    cases whole
    rfl
  | cons a as =>
    cases whole
    rfl

/-- The last node of a list points to NULL. -/
theorem last (whole : Segment next p (as ++ [a]) none) :
    Segment next p as (some a) ∧ next.lookup a = some none := by
  obtain ⟨q, front, back⟩ := whole.split
  cases back with
  | cons read rest =>
    cases rest
    exact ⟨front, read⟩

/-- A segment reads nothing but the nodes that it visits. -/
theorem congr (whole : Segment next p as q) (same : ∀ a ∈ as, other.lookup a = next.lookup a) :
    Segment other p as q := by
  induction whole with
  | nil p => exact .nil p
  | cons read _ ih =>
    refine .cons ((same _ List.mem_cons_self).trans read) (ih ?_)
    exact fun a isIn => same a (List.mem_cons_of_mem _ isIn)

/-- The nodes of a segment are allocated. -/
theorem allocated (whole : Segment next p as q) : ∀ a ∈ as, a ∈ next := by
  induction whole with
  | nil => exact fun _ isIn => by cases isIn
  | cons read _ ih =>
    intro a isIn
    rcases List.mem_cons.mp isIn with rfl | later
    · exact AList.lookup_isSome.mp (Option.isSome_of_eq_some read)
    · exact ih a later

/-- The pointer that a list starts with determines its nodes. -/
theorem unique (left : Segment next p as none) (right : Segment next p bs none) : as = bs := by
  induction as generalizing p bs with
  | nil =>
    cases left
    cases right
    rfl
  | cons a as ih =>
    cases left with
    | cons read rest =>
      cases right with
      | cons read' rest' =>
        obtain rfl := Option.some.inj (read.symm.trans read')
        rw [ih rest rest']

/-- A list that ends is not cyclic: it visits no node twice. -/
theorem nodup (whole : Segment next p as none) : as.Nodup := by
  induction as generalizing p with
  | nil => exact List.nodup_nil
  | cons a as ih =>
    cases whole with
    | cons read rest =>
      refine List.nodup_cons.mpr ⟨?_, ih rest⟩
      -- Behind a second visit of `a` the same nodes would follow as behind the first one.
      intro again
      obtain ⟨xs, ys, rfl⟩ := List.append_of_mem again
      obtain ⟨q, -, back⟩ := rest.split
      cases back with
      | cons read' rest' =>
        have same := unique (.cons read rest) (.cons read' rest')
        have lengths := congrArg List.length same
        simp only [List.length_cons, List.length_append] at lengths
        omega

/-- A node is linked behind the last one. -/
theorem link (whole : Segment next p (as ++ [a]) none) (fresh : b ∉ next) :
    Segment ((next.insert b none).insert a (some b)) p (as ++ [a] ++ [b]) none := by
  obtain ⟨front, -⟩ := whole.last
  have distinct : a ≠ b := by
    intro same
    exact fresh (same ▸ whole.allocated a (by simp))
  have notIn : a ∉ as := by
    have nodup := List.nodup_append.mp whole.nodup
    exact fun isIn => nodup.2.2 a isIn a List.mem_cons_self rfl
  have kept : Segment ((next.insert b none).insert a (some b)) p as (some a) := by
    refine front.congr fun c isIn => ?_
    have notLast : c ≠ a := fun same => notIn (same ▸ isIn)
    have notNew : c ≠ b := fun same => fresh (same ▸ front.allocated c isIn)
    rw [AList.lookup_insert_ne notLast, AList.lookup_insert_ne notNew]
  refine (kept.append (.cons (AList.lookup_insert _) (.nil (some b)))).append ?_
  refine .cons ?_ (.nil none)
  rw [AList.lookup_insert_ne distinct.symm, AList.lookup_insert]

/-- The first node is freed. -/
theorem unlink (whole : Segment next (some a) (a :: as) none) (read : next.lookup a = some p) :
    Segment (next.erase a) p as none := by
  have notIn : a ∉ as := (List.nodup_cons.mp whole.nodup).1
  cases whole with
  | cons read' rest =>
    obtain rfl := Option.some.inj (read.symm.trans read')
    refine rest.congr fun b isIn => ?_
    exact AList.lookup_erase_ne fun same => notIn (same ▸ isIn)

end Segment

end LinkedList
