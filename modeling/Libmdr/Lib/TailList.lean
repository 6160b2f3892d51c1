import Libmdr.Lib.LinkedList
import Mathlib.Data.List.Perm.Subperm

/-!
# Linked lists with a pointer to the last node

A new node goes behind the last one, which a second pointer leads to. A node is removed
in a walk from the first one that remembers the node before. Both pointers have to be kept
right when the node is the first one, the last one, or both.
-/

namespace LinkedList
set_option autoImplicit false

variable {α : Type} [DecidableEq α]

/-- The node behind `b` is passed over and freed. -/
theorem Segment.bypass {next : Memory α} {p q : Option α} {a b : α} {as bs : List α}
    (whole : Segment next p (as ++ b :: a :: bs) none) (read : next.lookup a = some q) :
    Segment ((next.insert b q).erase a) p (as ++ b :: bs) none := by
  have nodup := List.nodup_append.mp whole.nodup
  obtain ⟨notFirst, behind⟩ := List.nodup_cons.mp nodup.2.1
  have notSecond := (List.nodup_cons.mp behind).1
  have apart (c : α) (isIn : c ∈ as) : c ≠ b ∧ c ≠ a := by
    have different := nodup.2.2 c isIn
    exact ⟨different b List.mem_cons_self,
      different a (List.mem_cons_of_mem _ List.mem_cons_self)⟩
  have notEqual : b ≠ a := fun same => notFirst (same ▸ List.mem_cons_self)
  obtain ⟨r, front, back⟩ := whole.split
  cases back with
  | cons readFirst rest =>
    cases rest with
    | cons readSecond rest =>
      obtain rfl := Option.some.inj (read.symm.trans readSecond)
      have linked : ((next.insert b q).erase a).lookup b = some q := by
        rw [AList.lookup_erase_ne notEqual, AList.lookup_insert]
      refine (front.congr fun c isIn => ?_).append (.cons linked (rest.congr fun c isIn => ?_))
      · rw [AList.lookup_erase_ne (apart c isIn).2, AList.lookup_insert_ne (apart c isIn).1]
      · have notA : c ≠ a := fun same => notSecond (same ▸ isIn)
        have notB : c ≠ b := fun same => notFirst (same ▸ List.mem_cons_of_mem _ isIn)
        rw [AList.lookup_erase_ne notA, AList.lookup_insert_ne notB]

/-- The pointers to the first and the last node, and those between the nodes. -/
structure TailList (α : Type) where
  first : Option α
  tail : Option α
  next : Memory α

namespace TailList

def empty : TailList α := { first := none, tail := none, next := ∅ }

/-- A new node is put behind the last one, or becomes the only one. Programs differ in the
pointer that they test for an empty list. -/
def append (isEmpty : Bool) (a : α) (list : TailList α) : Option (TailList α) :=
  let next := list.next.insert a none
  if isEmpty then some { first := some a, tail := some a, next }
  else do
    let tail ← list.tail
    if tail ∈ next then return { list with tail := some a, next := next.insert tail (some a) }
    else none

/-- The walk that removes a node: it is at `node`, behind `prev`. -/
def removeLoop (target : α) :
    Nat → Option α → Option α → TailList α → Option (TailList α)
  | _, _, none, list => some list
  | 0, _, some _, _ => none
  | rounds + 1, prev, some node, list => do
    let next ← list.next.lookup node
    if node = target then
      let linked ← match prev with
        | none => some { list with first := next }
        | some prev =>
          if prev ∈ list.next then some { list with next := list.next.insert prev next } else none
      return { linked with
        tail := if next = none then prev else list.tail
        next := linked.next.erase node }
    else removeLoop target rounds (some node) next list

/-- A node is looked for from the first one on, unlinked and freed. No walk that ends visits
more nodes than there are. -/
def remove (target : α) (list : TailList α) : Option (TailList α) :=
  removeLoop target list.next.keys.length none list.first list

/-- The pointers are those of a list, and no other node is allocated. -/
structure Represents (list : TailList α) (as : List α) : Prop where
  nodes : Segment list.next list.first as none
  tail : list.tail = as.getLast?
  allocated : ∀ a ∈ list.next, a ∈ as

/-- What the pointers say: from `first` on, `next` leads to distinct nodes and then to NULL;
the last of them is `tail`, which is NULL when there is none. -/
structure Acyclic (list : TailList α) (as : List α) : Prop where
  nodes : Segment list.next list.first as none
  distinct : as.Nodup
  tail : list.tail = as.getLast?
  null : list.tail = none ↔ list.first = none

theorem represents_empty : (empty : TailList α).Represents [] where
  nodes := .nil none
  tail := rfl
  allocated := fun _ isIn => absurd isIn (AList.notMem_empty _)

namespace Represents

variable {list : TailList α} {as : List α}

theorem acyclic (represents : list.Represents as) : list.Acyclic as where
  nodes := represents.nodes
  distinct := represents.nodes.nodup
  tail := represents.tail
  null := by
    rw [represents.tail, represents.nodes.head, List.getLast?_eq_none_iff, List.head?_eq_none_iff]

theorem first_eq_none (represents : list.Represents as) : list.first = none ↔ as = [] := by
  rw [represents.nodes.head, List.head?_eq_none_iff]

theorem tail_eq_none (represents : list.Represents as) : list.tail = none ↔ as = [] := by
  rw [represents.tail, List.getLast?_eq_none_iff]

/-- A new node becomes the last one. -/
theorem append (represents : list.Represents as) {isEmpty : Bool} {a : α}
    (tested : isEmpty = true ↔ as = []) (fresh : a ∉ as) :
    ∃ list', list.append isEmpty a = some list' ∧ list'.Represents (as ++ [a]) := by
  obtain ⟨nodes, tail, allocated⟩ := represents
  unfold TailList.append
  rcases as.eq_nil_or_concat' with rfl | ⟨before, last, rfl⟩
  · rw [if_pos (tested.mpr rfl)]
    refine ⟨_, rfl, .cons (AList.lookup_insert _) (.nil none), rfl, ?_⟩
    intro b isIn
    rcases (AList.mem_insert _).mp isIn with rfl | old
    · exact List.mem_singleton.mpr rfl
    · exact absurd (allocated b old) List.not_mem_nil
  · have isLast : list.tail = some last := by
      rw [tail, List.getLast?_concat]
    have isNode : last ∈ list.next.insert a none :=
      (AList.mem_insert _).mpr (.inr (nodes.allocated last (by simp)))
    have new : a ∉ list.next := fun isIn => fresh (allocated a isIn)
    rw [if_neg fun holds => by simpa using tested.mp holds]
    simp only [isLast, Option.bind_eq_bind, Option.bind_some, if_pos isNode]
    refine ⟨_, rfl, nodes.link new, ?_, ?_⟩
    · rw [List.getLast?_concat]
    · intro b isIn
      rcases (AList.mem_insert _).mp isIn with rfl | old
      · simp
      · rcases (AList.mem_insert _).mp old with rfl | older
        · simp
        · exact List.mem_append_left _ (allocated b older)

/-- What the pointers of a node lead to. -/
theorem lookup {a : α} (before : List α) {after : List α}
    (represents : list.Represents (before ++ a :: after)) :
    list.next.lookup a = some after.head? := by
  obtain ⟨q, -, back⟩ := represents.nodes.split
  cases back with
  | cons read rest => rw [read, rest.head]

/-- The tail pointer when the node behind `before` has been removed. -/
theorem tail_of_removed {a : α} (before : List α) {after : List α}
    (represents : list.Represents (before ++ a :: after)) :
    (if after.head? = none then before.getLast? else list.tail) = (before ++ after).getLast? := by
  rw [represents.tail]
  rcases after.eq_nil_or_concat' with rfl | ⟨others, last, rfl⟩
  · rw [if_pos List.head?_nil, List.append_nil]
  · rw [if_neg (by simp), ← List.cons_append, ← List.append_assoc, ← List.append_assoc,
      List.getLast?_concat, List.getLast?_concat]

/-- The first node is unlinked and freed. -/
theorem unlink_first {a : α} {after : List α} (represents : list.Represents (a :: after)) :
    (⟨after.head?, if after.head? = none then none else list.tail, list.next.erase a⟩ :
      TailList α).Represents after := by
  have read := represents.lookup []
  have nodes := represents.nodes
  rw [nodes.head] at nodes
  refine ⟨?_, represents.tail_of_removed [], ?_⟩
  · have rest := nodes.unlink read
    exact rest
  · intro b isIn
    obtain ⟨different, old⟩ := AList.mem_erase.mp isIn
    exact (List.mem_cons.mp (represents.allocated b old)).resolve_left different

/-- A node behind another one is unlinked and freed. -/
theorem unlink_behind {a b : α} {before after : List α}
    (represents : list.Represents (before ++ [b] ++ a :: after)) :
    (⟨list.first, if after.head? = none then some b else list.tail,
      (list.next.insert b after.head?).erase a⟩ : TailList α).Represents
        (before ++ [b] ++ after) := by
  have tail := represents.tail_of_removed (before ++ [b])
  rw [List.getLast?_concat] at tail
  refine ⟨?_, tail, ?_⟩
  · have nodes := represents.nodes
    rw [List.append_assoc, List.singleton_append] at nodes ⊢
    exact nodes.bypass (represents.lookup (before ++ [b]))
  · intro c isIn
    obtain ⟨different, old⟩ := AList.mem_erase.mp isIn
    rcases (AList.mem_insert _).mp old with rfl | older
    · simp
    · have wasThere := represents.allocated c older
      rw [List.mem_append, List.mem_cons] at wasThere
      rw [List.mem_append]
      exact wasThere.imp_right fun isIn => isIn.resolve_left different

/-- The walk up to the node, which it removes. -/
theorem removeLoop (target : α) {rounds : Nat} {before after : List α}
    (represents : list.Represents (before ++ after)) (notYet : target ∉ before)
    (enough : after.length ≤ rounds) :
    ∃ list', TailList.removeLoop target rounds before.getLast? after.head? list = some list' ∧
      list'.Represents ((before ++ after).erase target) := by
  induction after generalizing before rounds with
  | nil =>
    refine ⟨list, ?_, ?_⟩
    · cases rounds <;> rfl
    · rw [List.append_nil] at represents ⊢
      rwa [List.erase_of_not_mem notYet]
  | cons node after ih =>
    cases rounds with
    | zero => exact absurd enough (Nat.not_succ_le_zero _)
    | succ rounds =>
      simp only [TailList.removeLoop, List.head?_cons, represents.lookup before,
        Option.bind_eq_bind,
        Option.bind_some]
      by_cases found : node = target
      · subst found
        rw [if_pos rfl, List.erase_append_right _ notYet, List.erase_cons_head]
        rcases before.eq_nil_or_concat' with rfl | ⟨others, last, rfl⟩
        · exact ⟨_, rfl, represents.unlink_first⟩
        · have isNode : last ∈ list.next := represents.nodes.allocated last (by simp)
          simp only [List.getLast?_concat, if_pos isNode]
          exact ⟨_, rfl, represents.unlink_behind⟩
      · rw [if_neg found]
        have moved : list.Represents ((before ++ [node]) ++ after) := by
          rwa [List.append_assoc, List.singleton_append]
        have still : target ∉ before ++ [node] := by
          rw [List.mem_append, List.mem_singleton]
          exact fun isIn => isIn.elim notYet fun same => found same.symm
        obtain ⟨list', removed, represents'⟩ := ih moved still (Nat.le_of_succ_le_succ enough)
        rw [List.getLast?_concat] at removed
        rw [List.append_assoc, List.singleton_append] at represents'
        exact ⟨list', removed, represents'⟩

/-- A node is removed from the list; an address at which there is none changes nothing. -/
theorem remove (represents : list.Represents as) (target : α) :
    ∃ list', list.remove target = some list' ∧ list'.Represents (as.erase target) := by
  have enough : as.length ≤ list.next.keys.length := by
    have sub : as ⊆ list.next.keys := fun a isIn => represents.nodes.allocated a isIn
    exact (represents.nodes.nodup.subperm sub).length_le
  have whole : list.Represents ([] ++ as) := represents
  obtain ⟨list', removed, represents'⟩ := whole.removeLoop target List.not_mem_nil enough
  refine ⟨list', ?_, represents'⟩
  rw [TailList.remove, represents.nodes.head]
  exact removed

end Represents

end TailList

end LinkedList
