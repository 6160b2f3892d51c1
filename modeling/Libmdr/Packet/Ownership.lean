import Libmdr.Packet.Memory

/-!
# Who owns the blocks of a packet

While a packet is built, every block that was allocated for it can be reached from the packet, and
`mdr_packet_free` on the unfinished packet releases each of them once. There is one exception: the
block that `PARSE_ALLOC_FIELD` stores for a device info string is replaced, and lost.
-/

namespace Libmdr
set_option autoImplicit false

/-! ## What is freed -/

namespace PacketMemory

/-- `mdr_packet_free` frees the pointers of such a packet, through arrays to a depth. -/
def FreesTo (type : PacketType) (selector : UInt8) (depth : Nat) : Prop :=
  ∀ blocks live, freeFields { type, selector, blocks } live = blocks.free depth [] live

/-- Some pointers are freed, or none. -/
theorem freeFields_cases (packet : PacketMemory) (live : Finset Nat) :
    packet.freeFields live = some live ∨
      ∃ depth, packet.freeFields live = packet.blocks.free depth [] live := by
  unfold freeFields connectFree commonFree eqebbFree ncasmFree playFree systemFree freeField
    freeForEach freeForEachForEach
  repeat' split
  all_goals first | exact .inl rfl | exact .inr ⟨_, rfl⟩

end PacketMemory

/-! ## While a packet is built -/

/-- The blocks that are allocated are the packet, what it points to, and those of before. -/
structure Building.Owns (base : Finset Nat) (depth : Nat) (b : Building) : Prop where
  placed : b.packet.blocks.Placed depth
  live : ∀ a, a ∈ b.live ↔ a ∈ base ∨ a = b.packet.blocks.root ∨
    ∃ place, b.packet.blocks.pointer place = some a
  fresh : ∀ a ∈ b.live, a < b.cursor.mallocs
  apart : ∀ a ∈ base, a ≠ b.packet.blocks.root ∧ ∀ place, b.packet.blocks.pointer place ≠ some a
  frees : (∀ place, b.packet.blocks.pointer place = none) ∨
    PacketMemory.FreesTo b.packet.type b.packet.selector depth

namespace Building.Owns

variable {base : Finset Nat} {depth : Nat} {b : Building}

/-- `mdr_packet_free` releases what the packet owns. -/
theorem free (owns : b.Owns base depth) : b.packet.free b.live = some base := by
  have rootLive : b.packet.blocks.root ∈ b.live := (owns.live _).mpr (.inr (.inl rfl))
  -- The pointers are freed first.
  have fields : ∃ between, b.packet.freeFields b.live = some between ∧
      ∀ a, a ∈ between ↔ a ∈ b.live ∧ ∀ place, b.packet.blocks.pointer place ≠ some a := by
    have spec := owns.placed.free_spec depth [] b.live
      (Nat.zero_add depth) ⟨_, rfl, rootLive⟩
      fun place a here => (owns.live a).mpr (.inr (.inr ⟨place, here⟩))
    rcases owns.frees with null | frees
    · refine ⟨b.live, ?_, fun a => by simp [null]⟩
      rcases b.packet.freeFields_cases b.live with nothing | ⟨other, field⟩
      · exact nothing
      · rw [field]
        have read : b.packet.blocks.read [] b.live = some none := by
          rw [Blocks.Tree.Placed.read_eq ⟨_, rfl, rootLive⟩, null]
        cases other <;> simp [Blocks.Tree.free, read, Blocks.release]
    · obtain ⟨between, freed, releases⟩ := spec
      exact ⟨between, (frees _ _).trans freed, releases⟩
  obtain ⟨between, freed, rest⟩ := fields
  have stays : b.packet.blocks.root ∈ between :=
    (rest _).mpr ⟨rootLive, fun place => owns.placed.root⟩
  simp only [PacketMemory.free, freed, Option.bind_eq_bind, Option.bind_some, Blocks.release,
    if_pos stays, Option.some.injEq]
  ext a
  rw [Finset.mem_erase, rest, owns.live]
  constructor
  · rintro ⟨other, isBase | isRoot | ⟨place, here⟩, none⟩
    · exact isBase
    · exact absurd isRoot other
    · exact absurd here (none place)
  · intro isBase
    obtain ⟨other, none⟩ := owns.apart a isBase
    exact ⟨other, .inl isBase, none⟩

/-- The cursor moves on, with no fewer allocations behind it. -/
theorem forward (owns : b.Owns base depth) {cursor : Cursor}
    (more : b.cursor.mallocs ≤ cursor.mallocs) : ({ b with cursor } : Building).Owns base depth :=
  { owns with fresh := fun a isLive => Nat.lt_of_lt_of_le (owns.fresh a isLive) more }

/-- A packet without pointers, with any selector and depth. -/
theorem bare (owns : b.Owns base depth) (null : ∀ place, b.packet.blocks.pointer place = none)
    (selector : UInt8) (depth' : Nat) :
    ({ b with packet := { b.packet with selector } } : Building).Owns base depth' where
  placed := by
    constructor
    · intro place a here
      rw [null] at here
      cases here
    · intro place i a here
      rw [null] at here
      cases here
    · intro place other a here
      rw [null] at here
      cases here
    · intro place here
      rw [null] at here
      cases here
  live := owns.live
  fresh := owns.fresh
  apart := owns.apart
  frees := .inl null

/-- A new block, and a pointer to it. -/
theorem allocated (owns : b.Owns base depth) {place : List Nat} {cursor : Cursor}
    (frees : PacketMemory.FreesTo b.packet.type b.packet.selector depth)
    (short : place.length ≤ depth) (isOpen : Blocks.Tree.Placed.Open b.packet.blocks place)
    (null : b.packet.blocks.pointer place = none) (more : cursor.mallocs = b.cursor.mallocs + 1) :
    (Build.allocated b place cursor).Owns base depth := by
  have new (a : Nat) (isLive : a ∈ b.live) : a ≠ b.cursor.mallocs := Nat.ne_of_lt (owns.fresh a isLive)
  have unused (other : List Nat) : b.packet.blocks.pointer other ≠ some b.cursor.mallocs :=
    fun here => new _ ((owns.live _).mpr (.inr (.inr ⟨other, here⟩))) rfl
  have apart : b.cursor.mallocs ≠ b.packet.blocks.root :=
    (new _ ((owns.live _).mpr (.inr (.inl rfl)))).symm
  refine ⟨owns.placed.setPointer_some short isOpen apart unused, ?_, ?_, ?_, .inr frees⟩
  · intro a
    change a ∈ insert b.cursor.mallocs b.live ↔ a ∈ base ∨ a = b.packet.blocks.root ∨
      ∃ other, (b.packet.blocks.setPointer place _).pointer other = some a
    rw [Finset.mem_insert, owns.live]
    constructor
    · rintro (rfl | isBase | isRoot | ⟨other, here⟩)
      · exact .inr (.inr ⟨place, Blocks.Tree.setPointer_same ..⟩)
      · exact .inl isBase
      · exact .inr (.inl isRoot)
      · refine .inr (.inr ⟨other, ?_⟩)
        have different : other ≠ place := by
          rintro rfl
          rw [null] at here
          cases here
        rwa [Blocks.Tree.setPointer_other different]
    · rintro (isBase | isRoot | ⟨other, here⟩)
      · exact .inr (.inl isBase)
      · exact .inr (.inr (.inl isRoot))
      · by_cases same : other = place
        · rw [same, Blocks.Tree.setPointer_same] at here
          exact .inl (Option.some.inj here).symm
        · rw [Blocks.Tree.setPointer_other same] at here
          exact .inr (.inr (.inr ⟨other, here⟩))
  · intro a isLive
    change a < cursor.mallocs
    rcases Finset.mem_insert.mp isLive with rfl | isLive
    · omega
    · have early := owns.fresh a isLive
      omega
  · intro a isBase
    refine ⟨(owns.apart a isBase).1, fun other => ?_⟩
    change (b.packet.blocks.setPointer place _).pointer other ≠ some a
    by_cases same : other = place
    · rw [same, Blocks.Tree.setPointer_same]
      exact fun here => new a ((owns.live a).mpr (.inl isBase)) (Option.some.inj here).symm
    · rw [Blocks.Tree.setPointer_other same]
      exact (owns.apart a isBase).2 other

end Building.Owns

/-! ## The macros -/

/-- A part that allocates nothing. -/
def Parse.Steady {α : Type} (part : Parse α) : Prop :=
  ∀ heap frame cursor, (part heap frame cursor).2.mallocs = cursor.mallocs

namespace Parse.Steady

variable {α β : Type}

theorem pure (a : α) : Steady (Pure.pure a : Parse α) := fun _ _ _ => rfl

theorem invalid : Steady (Parse.invalid : Parse α) := fun _ _ _ => rfl

theorem bind {first : Parse α} {next : α → Parse β} (steady : first.Steady)
    (later : ∀ a, (next a).Steady) : Steady (first >>= next) := by
  intro heap frame cursor
  change (Parse.bind first next heap frame cursor).2.mallocs = _
  unfold Parse.bind
  have same := steady heap frame cursor
  split <;> rename_i ran <;> rw [ran] at same
  · exact (later _ _ _ _).trans same
  · exact same

theorem byte : Steady Parse.byte := by
  intro heap frame cursor
  unfold Parse.byte
  split
  · rfl
  · dsimp only
    split <;> rfl

theorem enum [ByteEnum α] : Steady (Parse.enum : Parse α) := by
  refine bind byte fun b => ?_
  cases (ByteEnum.ofByte b : Option α) with
  | none => exact invalid
  | some a => exact pure a

theorem fixedValue : Steady Parse.fixedValue := by
  refine bind byte fun b => ?_
  split
  · exact pure b
  · exact invalid

end Parse.Steady

namespace Parse

theorem alloc_mallocs (heap : Heap) (frame : Frame) (cursor : Cursor) :
    (alloc heap frame cursor).2.mallocs = cursor.mallocs + 1 := by
  unfold alloc
  split <;> rfl

/-- Behind the bounds check there is one `malloc`. -/
theorem bytes_mallocs (length : UInt8) (heap : Heap) (frame : Frame) (cursor : Cursor) :
    (bytes length heap frame cursor).2.mallocs =
      cursor.mallocs + if (bytes length heap frame cursor).1 = .error .invalidFrame then 0
        else 1 := by
  unfold bytes alloc
  split
  · rfl
  · split <;> rename_i ran
    · split at ran <;> cases ran
      rfl
    · split at ran <;> cases ran
      dsimp only
      split <;> rfl

end Parse

/-- How a parser that builds a packet ends: in a state that satisfies `post`, or with all blocks
of the packet released. -/
def Building.Ends {α : Type} (base : Finset Nat) (post : α → Building → Prop)
    (run : Option (Except ParseFailure α × Building)) : Prop :=
  ∃ result b, run = some (result, b) ∧
    match result with
    | .ok a => post a b
    | .error .outOfBounds => True
    | .error _ => b.live = base

namespace Building.Ends

variable {α β : Type} {base : Finset Nat} {depth : Nat} {heap : Heap} {frame : Frame}
  {b : Building}

theorem pure {post : α → Building → Prop} {a : α} (holds : post a b) :
    Ends base post ((Pure.pure a : Build α) heap frame b) := ⟨_, _, rfl, holds⟩

theorem bind {first : Build α} {next : α → Build β} {post : α → Building → Prop}
    {lastPost : β → Building → Prop} (ends : Ends base post (first heap frame b))
    (later : ∀ a b', post a b' → Ends base lastPost (next a heap frame b')) :
    Ends base lastPost ((first >>= next) heap frame b) := by
  obtain ⟨result, b', ran, outcome⟩ := ends
  change Ends base lastPost (Build.bind first next heap frame b)
  unfold Build.bind
  rw [ran]
  cases result with
  | ok a => exact later a b' outcome
  | error failure =>
    refine ⟨_, _, rfl, ?_⟩
    cases failure <;> exact outcome

theorem imp {post weaker : α → Building → Prop} {run : Option (Except ParseFailure α × Building)}
    (ends : Ends base post run) (imp : ∀ a b', post a b' → weaker a b') : Ends base weaker run := by
  obtain ⟨result, b', ran, outcome⟩ := ends
  refine ⟨result, b', ran, ?_⟩
  cases result with
  | ok a => exact imp a b' outcome
  | error failure => cases failure <;> exact outcome

/-- The packet as it is can be freed. -/
theorem abandon {post : α → Building → Prop} (owns : b.Owns base depth) {failure : ParseFailure} :
    Ends base post (Build.abandon failure b) := by
  refine ⟨.error failure, { b with live := base }, by simp [Build.abandon, owns.free], ?_⟩
  cases failure
  · rfl
  · rfl
  · trivial

/-- A part that allocates nothing leaves the packet as it is. -/
theorem plain {part : Parse α} (steady : part.Steady) (owns : b.Owns base depth) :
    Ends base (fun _ b' => b'.Owns base depth ∧ b'.packet = b.packet)
      (Build.plain part heap frame b) := by
  have same := steady heap frame b.cursor
  unfold Build.plain
  split <;> rename_i ran <;> rw [ran] at same
  · exact ⟨_, _, rfl, owns.forward same.ge, rfl⟩
  · exact ⟨_, _, rfl, trivial⟩
  · exact abandon (owns.forward same.ge)

theorem invalid {post : α → Building → Prop} (owns : b.Owns base depth) :
    Ends base post (Build.plain Parse.invalid heap frame b) := by
  have failed : ({ b with cursor := { b.cursor with errno := mdrEInvalidFrame } } :
      Building).Owns base depth := owns.forward (Nat.le_refl _)
  exact abandon failed

theorem selector [ByteEnum α] (owns : b.Owns base depth)
    (null : ∀ place, b.packet.blocks.pointer place = none) :
    Ends base (fun (a : α) b' => (∀ depth, b'.Owns base depth) ∧
        b'.packet = { b.packet with selector := ByteEnum.byte a })
      ((Build.selector : Build α) heap frame b) := by
  refine bind (plain .byte owns) ?_
  rintro byte b' ⟨owns, same⟩
  rw [← same] at null
  have bare := owns.bare null byte
  cases known : (ByteEnum.ofByte byte : Option α) with
  | none =>
    change Ends base _ (Build.plain Parse.invalid heap frame
      { b' with packet := { b'.packet with selector := byte } })
    exact invalid (bare 0)
  | some a =>
    change Ends base _ ((Pure.pure a : Build α) heap frame
      { b' with packet := { b'.packet with selector := byte } })
    refine pure ⟨bare, ?_⟩
    rw [← same, ByteEnum.byte_of_ofByte known]

/-- The number of elements is stored before there are any. -/
theorem count {place : List Nat} (owns : b.Owns base depth)
    (null : b.packet.blocks.pointer place = none) :
    Ends base (fun n b' => b'.Owns base depth ∧ b'.packet =
        { b.packet with blocks := b.packet.blocks.setCount place n.toNat })
      (Build.count place heap frame b) := by
  refine bind (plain .byte owns) ?_
  rintro byte b' ⟨owns, same⟩
  rw [← same] at null
  refine ⟨_, _, rfl, ?_, by rw [← same]⟩
  exact ⟨owns.placed.setCount null, owns.live, owns.fresh, owns.apart,
    owns.frees.imp id fun frees => frees⟩

end Building.Ends

/-! ## Blocks in their places -/

/-- A place where a block can be hung up. -/
structure Building.Ready (depth : Nat) (place : List Nat) (b : Building) : Prop where
  short : place.length ≤ depth
  isOpen : Blocks.Tree.Placed.Open b.packet.blocks place
  null : b.packet.blocks.pointer place = none
  frees : PacketMemory.FreesTo b.packet.type b.packet.selector depth

theorem Building.Ready.of_packet {depth : Nat} {place : List Nat} {b b' : Building}
    (ready : b.Ready depth place) (same : b'.packet = b.packet) : b'.Ready depth place := by
  obtain ⟨short, isOpen, null, frees⟩ := ready
  constructor
  · exact short
  · rwa [same]
  · rwa [same]
  · rwa [same]

/-- From one state to another only what is at a place and below it has changed. -/
structure Building.Under (place : List Nat) (b b' : Building) : Prop where
  type : b'.packet.type = b.packet.type
  selector : b'.packet.selector = b.packet.selector
  pointer : ∀ {other}, ¬ place <+: other →
    b'.packet.blocks.pointer other = b.packet.blocks.pointer other
  count : ∀ {other}, ¬ place <+: other →
    b'.packet.blocks.count other = b.packet.blocks.count other

namespace Building.Under

variable {place : List Nat} {b b' b'' : Building}

theorem of_packet (same : b'.packet = b.packet) : Under place b b' := by
  constructor <;> intros <;> rw [same]

theorem trans (first : Under place b b') (second : Under place b' b'') : Under place b b'' where
  type := second.type.trans first.type
  selector := second.selector.trans first.selector
  pointer apart := (second.pointer apart).trans (first.pointer apart)
  count apart := (second.count apart).trans (first.count apart)

theorem widen {i : Nat} (under : Under (place ++ [i]) b b') : Under place b b' where
  type := under.type
  selector := under.selector
  pointer apart := under.pointer fun isPrefix => apart ((List.prefix_append _ _).trans isPrefix)
  count apart := under.count fun isPrefix => apart ((List.prefix_append _ _).trans isPrefix)

theorem setPointer {pointer : Option Nat} (same : b'.packet = b.packet.setPointer place pointer) :
    Under place b b' := by
  constructor
  · rw [same]
    rfl
  · rw [same]
    rfl
  · intro other apart
    rw [same]
    exact Blocks.Tree.setPointer_other (by rintro rfl; exact apart (List.prefix_refl _)) ..
  · intro other _
    rw [same]
    rfl

end Building.Under

theorem not_snoc_isPrefix (place : List Nat) (i : Nat) : ¬ place ++ [i] <+: place := by
  intro isPrefix
  have shorter := isPrefix.length_le
  rw [List.length_append, List.length_singleton] at shorter
  omega

theorem not_snoc_isPrefix_snoc (place : List Nat) {i j : Nat} (other : i ≠ j) :
    ¬ place ++ [i] <+: place ++ [j] := by
  intro isPrefix
  have same := List.append_cancel_left (isPrefix.eq_of_length (by simp))
  exact other (List.singleton_inj.mp same)

/-- The parser has filled in what is at a place, and below it. -/
def Building.Filled (base : Finset Nat) (depth : Nat) (place : List Nat) (b b' : Building) : Prop :=
  b'.Owns base depth ∧ Under place b b'

namespace Building.Ends

variable {α β : Type} {base : Finset Nat} {depth : Nat} {heap : Heap} {frame : Frame}
  {b : Building} {place : List Nat}

theorem alloc (owns : b.Owns base depth) (ready : b.Ready depth place) :
    Ends base (fun _ b' => b'.Owns base depth ∧
        b'.packet = b.packet.setPointer place (some b.cursor.mallocs))
      (Build.alloc place heap frame b) := by
  have counted := Parse.alloc_mallocs heap frame b.cursor
  unfold Build.alloc
  split <;> rename_i ran <;> rw [ran] at counted
  · exact ⟨_, _, rfl, owns.allocated ready.frees ready.short ready.isOpen ready.null counted, rfl⟩
  · have same : b.packet.setPointer place none = b.packet := by
      rw [← ready.null, PacketMemory.setPointer, Blocks.Tree.setPointer, Function.update_eq_self]
    rw [same]
    exact abandon (owns.forward (by rw [counted]; exact Nat.le_succ _))

theorem bytes {length : UInt8} (owns : b.Owns base depth) (ready : b.Ready depth place) :
    Ends base (fun _ b' => Filled base depth place b b') (Build.bytes place length heap frame b) := by
  have counted := Parse.bytes_mallocs length heap frame b.cursor
  unfold Build.bytes
  split <;> rename_i ran <;> rw [ran] at counted
  · exact ⟨_, _, rfl, owns.allocated ready.frees ready.short ready.isOpen ready.null
      counted, .setPointer rfl⟩
  · exact ⟨_, _, rfl, trivial⟩
  · exact abandon (owns.forward (by rw [counted]; exact Nat.le_add_right _ _))
  · have same : b.packet.setPointer place none = b.packet := by
      rw [← ready.null, PacketMemory.setPointer, Blocks.Tree.setPointer, Function.update_eq_self]
    rw [same]
    exact abandon (owns.forward (by rw [counted]; exact Nat.le_add_right _ _))

/-- An array of elements that allocate nothing. -/
theorem forEach_plain {count : UInt8} {part : Parse α} (steady : part.Steady)
    (owns : b.Owns base depth) (ready : b.Ready depth place) :
    Ends base (fun _ b' => Filled base depth place b b')
      (Build.forEach place count (fun _ => Build.plain part) heap frame b) := by
  have loop (n i : Nat) (b : Building) (owns : b.Owns base depth) :
      Ends base (fun _ b' => b'.Owns base depth ∧ b'.packet = b.packet)
        (Build.times (fun _ => Build.plain part) i n heap frame b) := by
    induction n generalizing i b with
    | zero => exact pure ⟨owns, rfl⟩
    | succ n ih =>
      refine bind (plain steady owns) fun _ b' ⟨owns, same⟩ => ?_
      exact bind (ih (i + 1) b' owns) fun _ b'' ⟨owns, same'⟩ => pure ⟨owns, same'.trans same⟩
  refine bind (alloc owns ready) fun _ b' ⟨owns, allocated⟩ => ?_
  refine imp (loop _ _ b' owns) fun _ b'' ⟨owns, same⟩ => ⟨owns, ?_⟩
  exact .setPointer (same.trans allocated)

/-- The loop over an array whose elements have blocks of their own. -/
theorem times {total : Nat} {element : Nat → Build α}
    (each : ∀ i b, i < total → b.Owns base depth → b.Ready depth (place ++ [i]) →
      Ends base (fun _ b' => Filled base depth (place ++ [i]) b b') (element i heap frame b))
    (n i : Nat) (whole : i + n = total) (owns : b.Owns base depth)
    (frees : PacketMemory.FreesTo b.packet.type b.packet.selector depth)
    (deep : place.length < depth) (parent : (b.packet.blocks.pointer place).isSome)
    (counted : b.packet.blocks.count place = total)
    (rest : ∀ j, i ≤ j → b.packet.blocks.pointer (place ++ [j]) = none) :
    Ends base (fun _ b' => Filled base depth place b b')
      (Build.times element i n heap frame b) := by
  induction n generalizing i b with
  | zero => exact pure ⟨owns, .of_packet rfl⟩
  | succ n ih =>
    have ready : b.Ready depth (place ++ [i]) := by
      refine ⟨?_, ?_, rest i (Nat.le_refl i), frees⟩
      · rw [List.length_append, List.length_singleton]
        omega
      · intro above k same
        obtain ⟨rfl, last⟩ := List.append_inj' same rfl
        obtain rfl := List.singleton_inj.mp last
        exact ⟨parent, by omega⟩
    refine bind (each i b (by omega) owns ready) fun _ b' ⟨owns, under⟩ => ?_
    have later := ih (i + 1) (by omega) owns
      (by rw [under.type, under.selector]; exact frees)
      (by rw [under.pointer (not_snoc_isPrefix place i)]; exact parent)
      (by rw [under.count (not_snoc_isPrefix place i)]; exact counted)
      (fun j beyond => by
        rw [under.pointer (not_snoc_isPrefix_snoc place (by omega))]
        exact rest j (by omega))
    exact bind later fun _ b'' ⟨owns, under'⟩ => pure ⟨owns, under.widen.trans under'⟩

theorem forEach {count : UInt8} {element : Nat → Build α}
    (each : ∀ i b, i < count.toNat → b.Owns base depth → b.Ready depth (place ++ [i]) →
      Ends base (fun _ b' => Filled base depth (place ++ [i]) b b') (element i heap frame b))
    (owns : b.Owns base depth) (ready : b.Ready depth place) (deep : place.length < depth)
    (counted : b.packet.blocks.count place = count.toNat) :
    Ends base (fun _ b' => Filled base depth place b b')
      (Build.forEach place count element heap frame b) := by
  have below := owns.placed.below_null ready.null
  refine bind (alloc owns ready) fun _ b' ⟨owns, allocated⟩ => ?_
  have under : Under place b b' := .setPointer allocated
  have parent : b'.packet.blocks.pointer place = some b.cursor.mallocs := by
    rw [allocated]
    exact Blocks.Tree.setPointer_same ..
  refine imp (times each _ _ (Nat.zero_add _) owns ?_ deep ?_ ?_ fun j _ => ?_)
    fun _ b'' ⟨owns, under'⟩ => ⟨owns, under.trans under'⟩
  · rw [under.type, under.selector]
    exact ready.frees
  · rw [parent]
    rfl
  · rw [allocated]
    exact counted
  · rw [allocated]
    refine (Blocks.Tree.setPointer_other ?_ ..).trans (below [j])
    intro same
    exact not_snoc_isPrefix place j (by rw [same])

end Building.Ends

end Libmdr
