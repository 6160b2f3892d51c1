import Libmdr.PacketConn.Reading
import Libmdr.PacketConn.Completion
import Mathlib.Data.List.Nodup

/-!
# Routing a packet to the subscriptions

The loop over the subscriptions follows `next` pointers while the callbacks it
calls may add and remove subscriptions. Handles grow along the list, so the node
behind a node is the one with the next larger handle, and a subscription that is
never removed is reached.
-/

namespace Libmdr
set_option autoImplicit false

/-- The subscription has a callback, and the packet is one it asks for. -/
def Subscription.Wants (subscription : Subscription) (packet : Packet) : Bool :=
  replySpecifierMatches subscription.specifier packet && subscription.callbacks.result.isSome

/-- The calls of subscription callbacks, in order. -/
def notifiedIn (events : List Event) : List (Subscription × Packet) :=
  events.filterMap fun
    | .notified subscription packet => some (subscription, packet)
    | _ => none

@[simp] theorem notifiedIn_append (xs ys : List Event) :
    notifiedIn (xs ++ ys) = notifiedIn xs ++ notifiedIn ys := List.filterMap_append

@[simp] theorem notifiedIn_map_accepted (requests : List Request) :
    notifiedIn (requests.map .accepted) = [] := by
  induction requests with
  | nil => rfl
  | cons request rest ih => exact ih

/-- No request ends, and new ones join the end of the queue. -/
structure KeepsRequests (s : State) (events : List Event) (s' : State) : Prop where
  finishes : finishedIn events = []
  queue : ∃ new : List Request, s'.conn.queue = new.foldl RequestQueue.enqueue s.conn.queue

theorem KeepsRequests.refl (s : State) : KeepsRequests s [] s := ⟨rfl, [], rfl⟩

theorem KeepsRequests.trans {s t u : State} {xs ys : List Event} (front : KeepsRequests s xs t)
    (back : KeepsRequests t ys u) : KeepsRequests s (xs ++ ys) u := by
  obtain ⟨finishes, new, queue⟩ := front
  obtain ⟨finishes', new', queue'⟩ := back
  refine ⟨by rw [finishedIn_append, finishes, finishes']; rfl, new ++ new', ?_⟩
  rw [queue', queue, List.foldl_append]

@[simp] theorem finishedIn_map_accepted (requests : List Request) :
    finishedIn (requests.map .accepted) = [] := by
  induction requests with
  | nil => rfl
  | cons request rest ih => exact ih

/-- A packet went to the subscriptions from a handle on. -/
structure RoutedFrom (first : Handle) (packet : Packet) (s : State) (events : List Event)
    (s' : State) : Prop where
  /-- Only the callbacks of subscriptions that ask for the packet are called. -/
  only : ∀ call ∈ notifiedIn events, call.2 = packet ∧ call.1.Wants packet = true ∧
    first ≤ call.1.handle
  /-- Each is called once, in the order of the subscriptions. -/
  once : (notifiedIn events).Pairwise fun a b => a.1.handle < b.1.handle
  /-- All are called, but those removed in the meantime. -/
  all : ∀ subscription ∈ s.conn.subscriptions, first ≤ subscription.handle →
    subscription.Wants packet = true → subscription ∈ s'.conn.subscriptions →
    (subscription, packet) ∈ notifiedIn events
  /-- Without a call nothing is added or removed. -/
  idle : notifiedIn events = [] → s'.conn.subscriptions = s.conn.subscriptions
  /-- Without a subscription that asks for the packet there is no call. -/
  silent : (∀ subscription ∈ s.conn.subscriptions, first ≤ subscription.handle →
    subscription.Wants packet = false) → notifiedIn events = []

/-- A packet went to all the subscriptions. -/
abbrev Routed (packet : Packet) (s : State) (events : List Event) (s' : State) : Prop :=
  RoutedFrom 0 packet s events s'

/-- The node behind a node has the next larger handle. -/
theorem nextSubscription_spec {handle : Handle} {nodes : List Subscription}
    {next : Option Handle} (increasing : nodes.Pairwise fun a b => a.handle < b.handle)
    (found : nextSubscription handle nodes = some next) :
    (∃ node ∈ nodes, node.handle = handle) ∧ (∀ h, next = some h → handle < h) ∧
      ∀ node ∈ nodes, handle < node.handle → ∃ h, next = some h ∧ h ≤ node.handle := by
  induction nodes with
  | nil => cases found
  | cons node rest ih =>
    obtain ⟨first, later⟩ := List.pairwise_cons.mp increasing
    rw [nextSubscription] at found
    split at found
    · rename_i here
      subst here
      cases found
      refine ⟨⟨node, List.mem_cons_self, rfl⟩, ?_⟩
      cases rest with
      | nil =>
        refine ⟨(fun h none => by cases none), fun other isIn behind => ?_⟩
        rw [List.mem_singleton.mp isIn] at behind
        exact absurd behind (Nat.lt_irrefl _)
      | cons second more =>
        refine ⟨fun h isNext => ?_, fun other isIn behind => ⟨second.handle, rfl, ?_⟩⟩
        · cases isNext
          exact first second List.mem_cons_self
        · rcases List.mem_cons.mp isIn with rfl | isLater
          · exact absurd behind (Nat.lt_irrefl _)
          · rcases List.mem_cons.mp isLater with rfl | isAfter
            · exact Nat.le_refl _
            · exact Nat.le_of_lt ((List.pairwise_cons.mp later).1 other isAfter)
    · obtain ⟨⟨target, isTarget, same⟩, larger, behind⟩ := ih later found
      refine ⟨⟨target, List.mem_cons_of_mem _ isTarget, same⟩, larger, ?_⟩
      intro other isIn isBehind
      rcases List.mem_cons.mp isIn with rfl | isLater
      · rw [← same] at isBehind
        exact absurd (first target isTarget) (Nat.lt_asymm isBehind)
      · exact behind other isLater isBehind

/-- What the loop does at one node. -/
theorem notify_calls {env : Env} {packet : Packet} {node : Subscription} {s s' : State}
    (run : notify env packet node s = some s') :
    ∃ events, s'.log = s.log ++ events ∧ KeepsRequests s events s' ∧
      notifiedIn events = (if node.Wants packet then [(node, packet)] else []) ∧
      (notifiedIn events = [] → s' = s) := by
  unfold notify at run
  unfold Subscription.Wants
  split at run
  · rename_i isMatch
    rw [isMatch, Bool.true_and]
    split at run
    · rename_i isSet
      obtain ⟨new, added⟩ := runCallback_added run
      have calls : notifiedIn ([.notified node packet] ++ new.map .accepted) = [(node, packet)] := by
        rw [notifiedIn_append, notifiedIn_map_accepted]
        rfl
      refine ⟨[.notified node packet] ++ new.map .accepted, ?_, ⟨?_, new, added.queue⟩, ?_,
        fun none => ?_⟩
      · rw [added.log, State.record_log, List.append_assoc]
      · rw [finishedIn_append, finishedIn_map_accepted]
        rfl
      · rw [if_pos isSet]
        exact calls
      · rw [calls] at none
        cases none
    · rename_i isNull
      cases run
      exact ⟨[], (List.append_nil _).symm, .refl s, by rw [if_neg isNull]; rfl, fun _ => rfl⟩
  · rename_i noMatch
    cases run
    refine ⟨[], (List.append_nil _).symm, .refl s, ?_, fun _ => rfl⟩
    rw [Bool.not_eq_true] at noMatch
    rw [noMatch, Bool.false_and]
    rfl

/-- Two nodes of the list with one handle are one. -/
theorem State.Ordered.eq_of_handle {s : State} (ordered : s.Ordered) {a b : Subscription}
    (isA : a ∈ s.conn.subscriptions) (isB : b ∈ s.conn.subscriptions)
    (same : a.handle = b.handle) : a = b := by
  have distinct : (s.conn.subscriptions.map Subscription.handle).Nodup :=
    List.pairwise_map.mpr (ordered.increasing.imp fun less => Nat.ne_of_lt less)
  exact List.inj_on_of_nodup_map distinct isA isB same

/-- Behind the last node there is nothing to do. -/
theorem routedFrom_end {first : Handle} {packet : Packet} {s : State}
    (last : ∀ node ∈ s.conn.subscriptions, node.handle < first) :
    RoutedFrom first packet s [] s where
  only := fun _ isIn => by cases isIn
  once := .nil
  all := fun node isIn behind => absurd (last node isIn) (Nat.not_lt.mpr behind)
  idle := fun _ => rfl
  silent := fun _ => rfl

/-- The nodes behind a node are those from the next one on. -/
theorem RoutedFrom.of_next {handle next : Handle} {packet : Packet} {s s' : State}
    {events : List Event} (routed : RoutedFrom next packet s events s') (larger : handle < next)
    (behind : ∀ node ∈ s.conn.subscriptions, handle < node.handle → next ≤ node.handle) :
    RoutedFrom (handle + 1) packet s events s' where
  only := by
    intro call isIn
    obtain ⟨same, wants, bound⟩ := routed.only call isIn
    exact ⟨same, wants, Nat.le_trans larger bound⟩
  once := routed.once
  all := fun subscription isIn isBehind =>
    routed.all subscription isIn (behind subscription isIn isBehind)
  idle := routed.idle
  silent := fun unwanted => routed.silent fun node isIn bound =>
    unwanted node isIn (Nat.le_trans larger bound)

/-- One node, and then those behind it. -/
theorem RoutedFrom.cons {packet : Packet} {node : Subscription} {s t s' : State}
    {here events : List Event} (ordered : s.Ordered) (isNode : node ∈ s.conn.subscriptions)
    (first : s.NoRead t) (later : t.NoRead s')
    (calls : notifiedIn here = if node.Wants packet then [(node, packet)] else [])
    (still : notifiedIn here = [] → t = s)
    (routed : RoutedFrom (node.handle + 1) packet t events s') :
    RoutedFrom node.handle packet s (here ++ events) s' where
  only := by
    intro call isIn
    rw [notifiedIn_append, calls] at isIn
    rcases List.mem_append.mp isIn with now | then_
    · split at now
      · rename_i wants
        rw [List.mem_singleton.mp now]
        exact ⟨rfl, wants, Nat.le_refl _⟩
      · cases now
    · obtain ⟨same, wants, bound⟩ := routed.only call then_
      exact ⟨same, wants, Nat.le_of_succ_le bound⟩
  once := by
    rw [notifiedIn_append, calls]
    refine List.pairwise_append.mpr ⟨?_, routed.once, ?_⟩
    · split
      · exact List.pairwise_singleton _ _
      · exact .nil
    · intro a isA b isB
      split at isA
      · rw [List.mem_singleton.mp isA]
        exact (routed.only b isB).2.2
      · cases isA
  all := by
    intro subscription isIn behind wants stays
    rw [notifiedIn_append, calls]
    rcases Nat.eq_or_lt_of_le behind with same | less
    · obtain rfl := ordered.eq_of_handle isNode isIn same
      rw [if_pos wants]
      exact List.mem_append_left _ (List.mem_singleton.mpr rfl)
    · have early := Nat.lt_of_lt_of_le (ordered.bounded subscription isIn) first.mono
      have wasThere := later.old subscription stays early
      exact List.mem_append_right _ (routed.all subscription wasThere less wants stays)
  idle := by
    intro none
    rw [notifiedIn_append, List.append_eq_nil_iff] at none
    rw [routed.idle none.2, still none.1]
  silent := by
    intro unwanted
    have noneHere : notifiedIn here = [] := by
      rw [calls, unwanted node isNode (Nat.le_refl _)]
      rfl
    rw [notifiedIn_append, noneHere, List.nil_append]
    refine routed.silent fun other isIn bound => ?_
    rw [still noneHere] at isIn
    exact unwanted other isIn (Nat.le_of_succ_le bound)

theorem dispatch_routedFrom {env : Env} {packet : Packet} {rounds : Nat} {handle : Handle}
    {s s' : State} (ordered : s.Ordered)
    (run : dispatch env packet rounds (some handle) s = some s') :
    ∃ events, s'.log = s.log ++ events ∧ KeepsRequests s events s' ∧
      RoutedFrom handle packet s events s' := by
  induction rounds generalizing handle s with
  | zero => cases run
  | succ rounds ih =>
    simp only [dispatch, Option.bind_eq_bind, Option.bind_eq_some_iff] at run
    obtain ⟨node, found, t, called, next, isNext, run⟩ := run
    have isNode := List.mem_of_find?_eq_some found
    obtain rfl : node.handle = handle := by simpa using List.find?_some found
    have first := notify_noRead called
    obtain ⟨here, logHere, keepsHere, calls, still⟩ := notify_calls called
    obtain ⟨-, larger, behind⟩ :=
      nextSubscription_spec (first.ordered ordered).increasing isNext
    obtain ⟨events, log, keeps, routed⟩ : ∃ events, s'.log = t.log ++ events ∧
        KeepsRequests t events s' ∧ RoutedFrom (node.handle + 1) packet t events s' := by
      cases next with
      | none =>
        cases rounds <;> cases run <;>
          refine ⟨[], (List.append_nil _).symm, .refl _, routedFrom_end ?_⟩ <;>
        · intro other isIn
          by_contra isBehind
          obtain ⟨h, none, -⟩ := behind other isIn (Nat.not_lt.mp isBehind)
          cases none
      | some next =>
        obtain ⟨events, log, keeps, routed⟩ := ih (first.ordered ordered) run
        refine ⟨events, log, keeps, routed.of_next (larger next rfl) ?_⟩
        intro other isIn isBehind
        obtain ⟨h, isNext, bound⟩ := behind other isIn isBehind
        cases isNext
        exact bound
    refine ⟨here ++ events, by rw [log, logHere, List.append_assoc], keepsHere.trans keeps, ?_⟩
    exact .cons ordered isNode first (dispatch_noRead run) calls still routed

/-- **A packet goes to every subscription that asks for it**, once and in order,
whatever the callbacks add and remove. -/
theorem dispatch_routed {env : Env} {packet : Packet} {rounds : Nat} {s s' : State}
    (ordered : s.Ordered)
    (run : dispatch env packet rounds (s.conn.subscriptions.head?.map Subscription.handle) s =
      some s') :
    ∃ events, s'.log = s.log ++ events ∧ KeepsRequests s events s' ∧
      Routed packet s events s' := by
  cases nodes : s.conn.subscriptions with
  | nil =>
    rw [nodes] at run
    have last : ∀ node ∈ s.conn.subscriptions, node.handle < 0 := by
      rw [nodes]
      exact fun _ isIn => by cases isIn
    cases rounds <;> cases run <;>
      exact ⟨[], (List.append_nil _).symm, .refl _, routedFrom_end last⟩
  | cons node rest =>
    rw [nodes] at run
    obtain ⟨events, log, keeps, routed⟩ := dispatch_routedFrom ordered run
    have least : ∀ other ∈ s.conn.subscriptions, node.handle ≤ other.handle := by
      have increasing := ordered.increasing
      rw [nodes] at increasing ⊢
      intro other isIn
      rcases List.mem_cons.mp isIn with rfl | isLater
      · exact Nat.le_refl _
      · exact Nat.le_of_lt ((List.pairwise_cons.mp increasing).1 other isLater)
    refine ⟨events, log, keeps, ⟨?_, routed.once, ?_, routed.idle, ?_⟩⟩
    · intro call isIn
      obtain ⟨same, wants, -⟩ := routed.only call isIn
      exact ⟨same, wants, Nat.zero_le _⟩
    · exact fun other isIn _ => routed.all other isIn (least other isIn)
    · exact fun unwanted => routed.silent fun other isIn _ => unwanted other isIn (Nat.zero_le _)

end Libmdr
