import Libmdr.PacketConn.Scripted
import Libmdr.PacketConn.Subscriptions

/-!
# Callbacks that change the list

A packet is passed along the list of subscriptions while the callbacks add subscriptions and
remove them. What the loop is for is that each subscription of the list as it was at the start
gets its turn. The loop goes on from the node that it has just called: it reads a freed node when
the callback has removed that one, and it comes to the nodes that were added meanwhile.
-/

namespace Libmdr
set_option autoImplicit false

/-! ## Turns -/

/-- The callbacks subscribe and remove subscriptions, and nothing else. -/
def Env.ChangesList (env : Env) : Prop :=
  ∀ k, ∀ c ∈ env.script k, (∃ spec result userData, c = .subscribe spec result userData) ∨
    ∃ handle, c = .removeSubscription handle

/-- The turn of a subscription: it is called when the packet is one it asks for, unless it has
been removed. -/
def takeTurn (env : Env) (packet : Packet) (node : Subscription) (s : State) : Option State :=
  if node ∈ s.conn.subscriptions then notify env packet node s else some s

/-- What the loop is for: each of some subscriptions has its turn, and no other one is called. -/
def takeTurns (env : Env) (packet : Packet) : List Subscription → State → Option State
  | [], s => some s
  | node :: rest, s => (takeTurn env packet node s).bind (takeTurns env packet rest)

/-- No callback removes the subscription that it is called for. -/
def StaysOnTurn (env : Env) (packet : Packet) : List Subscription → State → Prop
  | [], _ => True
  | node :: rest, s => ∀ t, takeTurn env packet node s = some t →
      (node ∈ s.conn.subscriptions → node ∈ t.conn.subscriptions) ∧ StaysOnTurn env packet rest t

/-- The loop ends, in as many rounds as it takes, and the calls are those of the subscriptions
that were there at the start, each on its turn. No freed node is read: the loop has no result
then. -/
def ToleratesChanges (env : Env) (packet : Packet) (s : State) : Prop :=
  ∃ rounds t u,
    dispatch env packet rounds (s.conn.subscriptions.head?.map Subscription.handle) s = some t ∧
    takeTurns env packet s.conn.subscriptions s = some u ∧ notifiedIn t.log = notifiedIn u.log

/-- Each subscription stays on its turn, and those added meanwhile do not ask for the packet. -/
def ChangesElsewhere (env : Env) (packet : Packet) (s : State) : Prop :=
  StaysOnTurn env packet s.conn.subscriptions s ∧
    ∀ u, takeTurns env packet s.conn.subscriptions s = some u →
      ∀ node ∈ u.conn.subscriptions, node ∈ s.conn.subscriptions ∨ node.Wants packet = false

section Turns

variable {env : Env} {packet : Packet} {s t : State}

/-- Callbacks that only change the list return. -/
theorem Env.ChangesList.returns (changes : env.ChangesList) : env.CallbacksReturn := by
  intro k s
  refine (userCalls_return_iff env (env.script k) s).mpr fun c isIn => ?_
  obtain ⟨spec, result, userData, rfl⟩ | ⟨handle, rfl⟩ := changes k c isIn <;> trivial

theorem takeTurns_returns (returns : env.CallbacksReturn) (packet : Packet)
    (nodes : List Subscription) (s : State) : (takeTurns env packet nodes s).isSome := by
  induction nodes generalizing s with
  | nil => rfl
  | cons node rest ih =>
    have first : (takeTurn env packet node s).isSome := by
      unfold takeTurn
      split
      · exact notify_returns returns packet node s
      · rfl
    obtain ⟨t, turn⟩ := Option.isSome_iff_exists.mp first
    rw [takeTurns, turn]
    exact ih t

/-! ## The node that is next -/

/-- The first node whose handle is not below a bound. -/
def firstFrom (bound : Handle) (nodes : List Subscription) : Option Handle :=
  (nodes.filter fun node => bound ≤ node.handle).head?.map Subscription.handle

theorem firstFrom_zero (nodes : List Subscription) :
    firstFrom 0 nodes = nodes.head?.map Subscription.handle := by
  rw [firstFrom, List.filter_eq_self.mpr fun node _ => decide_eq_true (Nat.zero_le node.handle)]

/-- Nodes below the bound come first in the list. -/
theorem firstFrom_append {bound : Handle} {before after : List Subscription}
    (below : ∀ node ∈ before, node.handle < bound) (behind : ∀ node ∈ after, bound ≤ node.handle) :
    firstFrom bound (before ++ after) = after.head?.map Subscription.handle := by
  have none : (before.filter fun node => bound ≤ node.handle) = [] :=
    List.filter_eq_nil_iff.mpr fun node isIn => by simpa using below node isIn
  have all : (after.filter fun node => bound ≤ node.handle) = after :=
    List.filter_eq_self.mpr fun node isIn => decide_eq_true (behind node isIn)
  rw [firstFrom, List.filter_append, none, all, List.nil_append]

/-- A list in order, divided at a bound. -/
theorem divide_subscriptions {nodes : List Subscription}
    (increasing : nodes.Pairwise fun a b => a.handle < b.handle) (bound : Handle) :
    ∃ before after, nodes = before ++ after ∧ (∀ node ∈ before, node.handle < bound) ∧
      ∀ node ∈ after, bound ≤ node.handle := by
  induction nodes with
  | nil => exact ⟨[], [], rfl, (fun _ isIn => by cases isIn), (fun _ isIn => by cases isIn)⟩
  | cons node rest ih =>
    obtain ⟨first, later⟩ := List.pairwise_cons.mp increasing
    by_cases less : node.handle < bound
    · obtain ⟨before, after, split, below, behind⟩ := ih later
      refine ⟨node :: before, after, by rw [split, List.cons_append], ?_, behind⟩
      exact List.forall_mem_cons.mpr ⟨less, below⟩
    · have least := Nat.not_lt.mp less
      refine ⟨[], node :: rest, rfl, (fun _ isIn => by cases isIn), ?_⟩
      refine List.forall_mem_cons.mpr ⟨least, fun other isIn => ?_⟩
      exact Nat.le_trans least (Nat.le_of_lt (first other isIn))

/-- The node behind a node that is in the list. -/
theorem nextSubscription_eq_firstFrom (ordered : s.Ordered) {node : Subscription}
    (isNode : node ∈ s.conn.subscriptions) :
    nextSubscription node.handle s.conn.subscriptions =
      some (firstFrom (node.handle + 1) s.conn.subscriptions) := by
  obtain ⟨before, after, split⟩ := List.append_of_mem isNode
  have increasing := ordered.increasing
  rw [split] at increasing
  obtain ⟨-, back, apart⟩ := List.pairwise_append.mp increasing
  have below : ∀ other ∈ before ++ [node], other.handle < node.handle + 1 := by
    intro other isIn
    rcases List.mem_append.mp isIn with early | last
    · exact Nat.lt_succ_of_lt (apart other early node List.mem_cons_self)
    · rw [List.mem_singleton.mp last]
      exact Nat.lt_succ_self _
  have first := firstFrom_append below (List.pairwise_cons.mp back).1
  rw [List.append_assoc, List.singleton_append] at first
  rw [split, first]
  exact (nextSubscription_split after (ordered.distinct split)).2

/-- A node that is in the list is found at its address. -/
theorem State.Ordered.find_subscription (ordered : s.Ordered) {node : Subscription}
    (isNode : node ∈ s.conn.subscriptions) :
    (s.conn.subscriptions.find? fun other => other.handle = node.handle) = some node := by
  obtain ⟨before, after, split⟩ := List.append_of_mem isNode
  rw [split]
  exact (nextSubscription_split after (ordered.distinct split)).1

/-- Behind nodes that do not ask for the packet the loop ends and has done nothing. -/
theorem dispatch_unwanted (ordered : s.Ordered) {before after : List Subscription}
    (split : s.conn.subscriptions = before ++ after)
    (unwanted : ∀ node ∈ after, node.Wants packet = false) :
    ∃ rounds, dispatch env packet rounds (after.head?.map Subscription.handle) s = some s := by
  induction after generalizing before with
  | nil => exact ⟨0, rfl⟩
  | cons node after ih =>
    have onward : s.conn.subscriptions = (before ++ [node]) ++ after := by
      rw [split, List.append_assoc, List.singleton_append]
    obtain ⟨rounds, rest⟩ := ih onward fun other isIn =>
      unwanted other (List.mem_cons_of_mem _ isIn)
    obtain ⟨isNode, next⟩ := nextSubscription_split after (ordered.distinct split)
    have uncalled : notify env packet node s = some s := by
      have unwantedHere := unwanted node List.mem_cons_self
      rw [Subscription.Wants, Bool.and_eq_false_iff] at unwantedHere
      unfold notify
      rcases unwantedHere with noMatch | isNull
      · rw [noMatch, if_neg Bool.false_ne_true]
      · rw [isNull, if_neg Bool.false_ne_true, ite_self]
    refine ⟨rounds + 1, ?_⟩
    simp only [List.head?_cons, Option.map_some, dispatch, split, isNode, Option.bind_eq_bind,
      Option.bind_some, uncalled, next]
    exact rest

/-! ## The loop goes from turn to turn -/

/-- The loop has come to a bound: the subscriptions of the start that have not had their turn,
in order, and those of them that are still in the list are all that is there between the
bound and the handles of new ones. -/
structure State.Awaits (s : State) (bound new : Handle) (rest : List Subscription) : Prop where
  ordered : s.Ordered
  increasing : rest.Pairwise fun a b => a.handle < b.handle
  bounded : bound ≤ new
  above : ∀ node ∈ rest, bound ≤ node.handle
  below : ∀ node ∈ rest, node.handle < new
  live : ∀ node ∈ s.conn.subscriptions, bound ≤ node.handle → node.handle < new → node ∈ rest
  fresh : new ≤ s.nextHandle

variable {bound new : Handle} {node : Subscription} {rest : List Subscription}

/-- The bound moves behind a node that has had its turn. -/
theorem State.Awaits.next (awaits : s.Awaits bound new (node :: rest)) (noRead : s.NoRead t) :
    t.Awaits (node.handle + 1) new rest where
  ordered := noRead.ordered awaits.ordered
  increasing := (List.pairwise_cons.mp awaits.increasing).2
  bounded := awaits.below node List.mem_cons_self
  above := (List.pairwise_cons.mp awaits.increasing).1
  below := fun other isIn => awaits.below other (List.mem_cons_of_mem _ isIn)
  live := by
    intro other isIn behind early
    have wasThere := noRead.old other isIn (Nat.lt_of_lt_of_le early awaits.fresh)
    have atLeast : bound ≤ other.handle :=
      Nat.le_trans (awaits.above node List.mem_cons_self) (Nat.le_of_lt behind)
    rcases List.mem_cons.mp (awaits.live other wasThere atLeast early) with rfl | later
    · exact absurd behind (Nat.lt_irrefl _)
    · exact later
  fresh := Nat.le_trans awaits.fresh noRead.mono

/-- The node whose turn it is comes first. -/
theorem State.Awaits.first (awaits : s.Awaits bound new (node :: rest)) {other : Subscription}
    (isIn : other ∈ s.conn.subscriptions) (behind : bound ≤ other.handle) :
    node.handle ≤ other.handle := by
  rcases Nat.lt_or_ge other.handle new with early | late
  · rcases List.mem_cons.mp (awaits.live other isIn behind early) with rfl | later
    · exact Nat.le_refl _
    · exact Nat.le_of_lt ((List.pairwise_cons.mp awaits.increasing).1 other later)
  · exact Nat.le_of_lt (Nat.lt_of_lt_of_le (awaits.below node List.mem_cons_self) late)

theorem State.Awaits.firstFrom_eq (awaits : s.Awaits bound new (node :: rest)) :
    firstFrom bound s.conn.subscriptions = firstFrom node.handle s.conn.subscriptions := by
  rw [firstFrom, firstFrom]
  congr 2
  refine List.filter_congr fun other isIn => decide_eq_decide.mpr ⟨awaits.first isIn, ?_⟩
  exact Nat.le_trans (awaits.above node List.mem_cons_self)

theorem State.Awaits.firstFrom_nil (awaits : s.Awaits bound new []) :
    firstFrom bound s.conn.subscriptions = firstFrom new s.conn.subscriptions := by
  rw [firstFrom, firstFrom]
  congr 2
  refine List.filter_congr fun other isIn => decide_eq_decide.mpr ⟨fun behind => ?_, ?_⟩
  · by_contra early
    cases awaits.live other isIn behind (Nat.not_le.mp early)
  · exact Nat.le_trans awaits.bounded

/-- A node that has been removed is passed over. -/
theorem State.Awaits.firstFrom_gone (awaits : s.Awaits bound new (node :: rest))
    (gone : node ∉ s.conn.subscriptions) :
    firstFrom bound s.conn.subscriptions = firstFrom (node.handle + 1) s.conn.subscriptions := by
  rw [awaits.firstFrom_eq, firstFrom, firstFrom]
  congr 2
  refine List.filter_congr fun other isIn => decide_eq_decide.mpr ⟨fun behind => ?_, ?_⟩
  · refine Nat.lt_of_le_of_ne behind fun same => ?_
    have atLeast : bound ≤ other.handle :=
      Nat.le_trans (awaits.above node List.mem_cons_self) behind
    have early : other.handle < new := same ▸ awaits.below node List.mem_cons_self
    rcases List.mem_cons.mp (awaits.live other isIn atLeast early) with rfl | later
    · exact gone isIn
    · exact Nat.ne_of_lt ((List.pairwise_cons.mp awaits.increasing).1 other later) same
  · exact Nat.le_of_succ_le

theorem State.Awaits.firstFrom_live (awaits : s.Awaits bound new (node :: rest))
    (isNode : node ∈ s.conn.subscriptions) :
    firstFrom bound s.conn.subscriptions = some node.handle := by
  obtain ⟨before, after, split⟩ := List.append_of_mem isNode
  have increasing := awaits.ordered.increasing
  rw [split] at increasing
  obtain ⟨-, back, apart⟩ := List.pairwise_append.mp increasing
  rw [awaits.firstFrom_eq, split]
  refine firstFrom_append (fun other early => apart other early node List.mem_cons_self) ?_
  refine List.forall_mem_cons.mpr ⟨Nat.le_refl _, fun other later => ?_⟩
  exact Nat.le_of_lt ((List.pairwise_cons.mp back).1 other later)

/-- A node has its turn while it is in the list: the loop goes on when the node is still there
after the call. -/
theorem dispatch_live (ordered : s.Ordered) (isNode : node ∈ s.conn.subscriptions) :
    (∃ rounds, dispatch env packet rounds (some node.handle) s = some t) ↔
      ∃ u, notify env packet node s = some u ∧ node ∈ u.conn.subscriptions ∧
        ∃ rounds, dispatch env packet rounds (firstFrom (node.handle + 1) u.conn.subscriptions) u =
          some t := by
  have found := ordered.find_subscription isNode
  constructor
  · rintro ⟨_ | rounds, run⟩
    · cases run
    simp only [dispatch, found, Option.bind_eq_bind, Option.bind_some, Option.bind_eq_some_iff]
      at run
    obtain ⟨u, called, next, isNext, run⟩ := run
    have noRead := notify_noRead called
    have still : node ∈ u.conn.subscriptions := by
      by_contra gone
      rw [nextSubscription_eq_none] at isNext
      · cases isNext
      · intro isHandle
        obtain ⟨other, isOther, same⟩ := List.mem_map.mp isHandle
        have early : other.handle < s.nextHandle := same ▸ ordered.bounded node isNode
        have wasThere := noRead.old other isOther early
        exact gone (ordered.eq_of_handle wasThere isNode same ▸ isOther)
    rw [nextSubscription_eq_firstFrom (noRead.ordered ordered) still] at isNext
    cases isNext
    exact ⟨u, called, still, rounds, run⟩
  · rintro ⟨u, called, still, rounds, run⟩
    have next := nextSubscription_eq_firstFrom ((notify_noRead called).ordered ordered) still
    refine ⟨rounds + 1, ?_⟩
    simp only [dispatch, found, Option.bind_eq_bind, Option.bind_some, called, next]
    exact run

/-- The loop returns when each subscription stays on its turn and the loop from the new ones
on returns. -/
theorem dispatch_turns (awaits : s.Awaits bound new rest) :
    (∃ rounds, dispatch env packet rounds (firstFrom bound s.conn.subscriptions) s = some t) ↔
      StaysOnTurn env packet rest s ∧ ∃ u, takeTurns env packet rest s = some u ∧
        ∃ rounds, dispatch env packet rounds (firstFrom new u.conn.subscriptions) u = some t := by
  induction rest generalizing s bound with
  | nil =>
    rw [awaits.firstFrom_nil]
    constructor
    · exact fun run => ⟨trivial, s, rfl, run⟩
    · rintro ⟨-, u, same, run⟩
      cases same
      exact run
  | cons node rest ih =>
    by_cases isNode : node ∈ s.conn.subscriptions
    · have turn : takeTurn env packet node s = notify env packet node s := if_pos isNode
      rw [awaits.firstFrom_live isNode, dispatch_live awaits.ordered isNode]
      constructor
      · rintro ⟨u, called, still, run⟩
        obtain ⟨stays, v, turns, last⟩ := (ih (awaits.next (notify_noRead called))).mp run
        refine ⟨fun w same => ?_, v, ?_, last⟩
        · rw [turn, called] at same
          cases same
          exact ⟨fun _ => still, stays⟩
        · rw [takeTurns, turn, called]
          exact turns
      · rintro ⟨stays, v, turns, last⟩
        rw [takeTurns, Option.bind_eq_some_iff] at turns
        obtain ⟨u, called, turns⟩ := turns
        obtain ⟨still, later⟩ := stays u called
        rw [turn] at called
        exact ⟨u, called, still isNode, (ih (awaits.next (notify_noRead called))).mpr
          ⟨later, v, turns, last⟩⟩
    · have turn : takeTurn env packet node s = some s := if_neg isNode
      rw [awaits.firstFrom_gone isNode, ih (awaits.next (.refl s)), takeTurns, turn,
        Option.bind_some]
      refine and_congr_left fun _ => ⟨fun stays w same => ?_, fun stays => (stays s turn).2⟩
      cases turn.symm.trans same
      exact ⟨fun isIn => isIn, stays⟩

theorem takeTurns_noRead {nodes : List Subscription}
    (turns : takeTurns env packet nodes s = some t) : s.NoRead t := by
  induction nodes generalizing s with
  | nil =>
    cases turns
    exact .refl _
  | cons node rest ih =>
    rw [takeTurns, Option.bind_eq_some_iff] at turns
    obtain ⟨u, turn, turns⟩ := turns
    unfold takeTurn at turn
    split at turn
    · exact (notify_noRead turn).trans (ih turns)
    · cases turn
      exact ih turns

/-- A new subscription that asks for the packet is called as well. -/
theorem dispatch_wanted {rounds : Nat} (ordered : s.Ordered) (isNode : node ∈ s.conn.subscriptions)
    (behind : bound ≤ node.handle) (wants : node.Wants packet = true)
    (run : dispatch env packet rounds (firstFrom bound s.conn.subscriptions) s = some t) :
    notifiedIn t.log ≠ notifiedIn s.log := by
  obtain ⟨before, after, split, early, late⟩ := divide_subscriptions ordered.increasing bound
  have increasing := ordered.increasing
  rw [split, firstFrom_append early late] at run
  rw [split] at isNode increasing
  have isLate : node ∈ after :=
    (List.mem_append.mp isNode).resolve_left fun isEarly =>
      Nat.not_lt.mpr behind (early node isEarly)
  cases after with
  | nil => cases isLate
  | cons first after =>
    obtain ⟨-, back, -⟩ := List.pairwise_append.mp increasing
    have least : first.handle ≤ node.handle := by
      rcases List.mem_cons.mp isLate with rfl | later
      · exact Nat.le_refl _
      · exact Nat.le_of_lt ((List.pairwise_cons.mp back).1 node later)
    obtain ⟨events, log, -, routed⟩ := dispatch_routedFrom ordered run
    intro same
    have none : notifiedIn events = [] := by
      rw [log, notifiedIn_append] at same
      exact List.append_right_eq_self.mp same
    rw [← split] at isNode
    have called := routed.all node isNode least wants (by rw [routed.idle none]; exact isNode)
    rw [none] at called
    cases called

end Turns

/-- **The list may be changed by callbacks that leave the subscription they are called for, and
add none that asks for the packet.** -/
theorem toleratesChanges_iff {env : Env} {packet : Packet} {s : State} (changes : env.ChangesList)
    (ordered : s.Ordered) : ToleratesChanges env packet s ↔ ChangesElsewhere env packet s := by
  have awaits : s.Awaits 0 s.nextHandle s.conn.subscriptions :=
    { ordered, increasing := ordered.increasing, bounded := Nat.zero_le _,
      above := fun node _ => Nat.zero_le node.handle, below := ordered.bounded,
      live := fun _ isIn _ _ => isIn, fresh := Nat.le_refl _ }
  constructor
  · rintro ⟨rounds, t, u, run, turns, same⟩
    rw [← firstFrom_zero] at run
    obtain ⟨stays, v, turns', rounds', last⟩ := (dispatch_turns awaits).mp ⟨rounds, run⟩
    obtain rfl := Option.some.inj (turns.symm.trans turns')
    refine ⟨stays, fun v again node isNode => ?_⟩
    obtain rfl := Option.some.inj (turns.symm.trans again)
    have noRead := takeTurns_noRead turns
    by_contra neither
    obtain ⟨added, wants⟩ := not_or.mp neither
    have late : s.nextHandle ≤ node.handle :=
      Nat.not_lt.mp fun early => added (noRead.old node isNode early)
    exact dispatch_wanted (noRead.ordered ordered) isNode late (by simpa using wants) last same
  · rintro ⟨stays, unwanted⟩
    obtain ⟨u, turns⟩ := Option.isSome_iff_exists.mp
      (takeTurns_returns changes.returns packet s.conn.subscriptions s)
    have orderedThen := (takeTurns_noRead turns).ordered ordered
    obtain ⟨before, after, split, early, late⟩ :=
      divide_subscriptions orderedThen.increasing s.nextHandle
    have last : ∃ rounds,
        dispatch env packet rounds (firstFrom s.nextHandle u.conn.subscriptions) u = some u := by
      rw [split, firstFrom_append early late]
      refine dispatch_unwanted orderedThen split fun node isLate => ?_
      have isNode : node ∈ u.conn.subscriptions := by
        rw [split]
        exact List.mem_append_right _ isLate
      refine (unwanted u turns node isNode).resolve_left fun isOld => ?_
      exact Nat.not_lt.mpr (late node isLate) (ordered.bounded node isOld)
    obtain ⟨rounds, run⟩ := (dispatch_turns awaits).mpr ⟨stays, u, turns, last⟩
    rw [firstFrom_zero] at run
    exact ⟨rounds, u, u, run, turns, rfl⟩

/-- What the device says about its battery, unasked. -/
def batteryNotice : Packet := .commonNtfyBatteryLevel (.battery { level := 50, charging := 0 })

def subscribeToBattery : UserCall :=
  .subscribe { onlyAck := false, packetType := .commonNtfyBatteryLevel, extra := 0 } (some 0) 0

/-- The first of two subscriptions removes the second one. -/
theorem toleratesChanges_iff_other :
    ∃ s, run Env.idle [.user subscribeToBattery, .user subscribeToBattery]
        (.start .fresh (.listing [] [])) = some s ∧
      (ToleratesChanges (.calling [.removeSubscription 1]) batteryNotice s ↔
        ChangesElsewhere (.calling [.removeSubscription 1]) batteryNotice s) := by
  obtain ⟨s, ran⟩ := Option.isSome_iff_exists.mp (show (run Env.idle
    [.user subscribeToBattery, .user subscribeToBattery]
    (.start .fresh (.listing [] []))).isSome = true by decide +kernel)
  refine ⟨s, ran, toleratesChanges_iff (fun k c isIn => .inr ⟨1, ?_⟩)
    (ordered_invariant.run ran (ordered_start _ _))⟩
  exact List.mem_singleton.mp isIn

/-- A subscription for one notice removes itself. -/
theorem not_toleratesChanges_once :
    ∃ s, run Env.idle [.user subscribeToBattery] (.start .fresh (.listing [] [])) = some s ∧
      ¬ ToleratesChanges (.calling [.removeSubscription 0]) batteryNotice s := by
  obtain ⟨s, ran, check⟩ := (Option.any_eq_true _ _).mp (show (run Env.idle
    [.user subscribeToBattery] (.start .fresh (.listing [] []))).any
    (fun s => s.conn.subscriptions.head?.any fun node =>
      (notify (.calling [.removeSubscription 0]) batteryNotice node s).all fun t =>
        node ∉ t.conn.subscriptions) = true by decide +kernel)
  obtain ⟨node, first, gone⟩ := (Option.any_eq_true _ _).mp check
  refine ⟨s, ran, ?_⟩
  rintro ⟨rounds, t, u, dispatched, -, -⟩
  rw [first] at dispatched
  obtain ⟨v, called, still, -⟩ := (dispatch_live (ordered_invariant.run ran (ordered_start _ _))
    (List.mem_of_head? first)).mp ⟨rounds, dispatched⟩
  rw [called, Option.all_some] at gone
  exact of_decide_eq_true gone still

end Libmdr
