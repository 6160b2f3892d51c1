import Libmdr.PacketConn.Subscriptions
import Libmdr.PacketConn.Walk

/-!
# What subscriptions are told

The callback of a subscription is called with a packet that was acted on and that the subscription
wants, and the subscription is one that user code asked for. Callbacks may subscribe and remove
subscriptions while a packet is on its way along the list; a node that is reached is in the list
then.
-/

namespace Libmdr
set_option autoImplicit false

/-- The subscription was made for a call of `mdr_packetconn_subscribe`. -/
def Subscription.MadeFor (subscription : Subscription) (asked : UserCall → Prop) : Prop :=
  asked (.subscribe subscription.specifier subscription.callbacks.result
    subscription.callbacks.userData)

/-- Why the callback of a subscription was called with a packet. -/
structure Told (asked : Nat → UserCall → Prop) (s : State) (subscription : Subscription)
    (packet : Packet) : Prop where
  madeFor : ∃ k ≤ s.calls, subscription.MadeFor (asked k)
  wants : subscription.Wants packet = true
  read : packet ∈ parsedIn s.log

/-- The subscriptions in the list and those that were told a packet were asked for. -/
structure State.Notices (asked : Nat → UserCall → Prop) (s : State) : Prop where
  nodes : ∀ node ∈ s.conn.subscriptions, ∃ k ≤ s.calls, node.MadeFor (asked k)
  told : ∀ told ∈ notifiedIn s.log, Told asked s told.1 told.2

namespace State.Notices

variable {asked : Nat → UserCall → Prop} {s t : State}

/-- What a step may do: add nodes that were asked for, and tell packets. -/
theorem of_append {events : List Event} (now : s.Notices asked)
    (nodes : ∀ node ∈ t.conn.subscriptions,
      node ∈ s.conn.subscriptions ∨ ∃ k ≤ t.calls, node.MadeFor (asked k))
    (log : t.log = s.log ++ events) (calls : s.calls ≤ t.calls)
    (told : ∀ told ∈ notifiedIn events, Told asked s told.1 told.2) : t.Notices asked where
  nodes node isNode := by
    rcases nodes node isNode with isOld | isNew
    · obtain ⟨k, early, madeFor⟩ := now.nodes node isOld
      exact ⟨k, early.trans calls, madeFor⟩
    · exact isNew
  told call isTold := by
    rw [log, notifiedIn_append] at isTold
    obtain ⟨⟨k, early, madeFor⟩, wants, read⟩ :=
      (List.mem_append.mp isTold).elim (now.told call) (told call)
    refine ⟨⟨k, early.trans calls, madeFor⟩, wants, ?_⟩
    rw [log, parsedIn_append]
    exact List.mem_append_left _ read

/-- Nothing is told, and nothing is subscribed. -/
theorem of_silent {events : List Event} (now : s.Notices asked)
    (nodes : t.conn.subscriptions = s.conn.subscriptions) (log : t.log = s.log ++ events)
    (silent : notifiedIn events = []) (calls : s.calls ≤ t.calls) : t.Notices asked :=
  now.of_append (fun _ isNode => .inl (nodes ▸ isNode)) log calls
    (silent ▸ fun _ isIn => by cases isIn)

end State.Notices

section Walk

variable {env : Env} {asked : Nat → UserCall → Prop} {s t : State}

/-- User code adds a node for its call, or takes one away. -/
theorem userCall_notices {c : UserCall} (isAsked : asked s.calls c) (run : userCall env s c = some t)
    (now : s.Notices asked) : t.Notices asked := by
  obtain ⟨new, added⟩ := userCall_added run
  obtain ⟨-, -, calls, -⟩ := userCall_asked run
  refine now.of_append ?_ added.log calls.ge ?_
  · intro node isNode
    cases c with
    | makeRequest packet spec callbacks =>
      obtain ⟨⟨handle, u⟩, made, rfl⟩ := Option.map_eq_some_iff.mp run
      exact .inl (makeRequest_subscriptions made ▸ isNode)
    | subscribe spec result userData =>
      cases run
      unfold subscribe at isNode ⊢
      split at isNode
      · exact .inl isNode
      · rcases List.mem_append.mp isNode with isOld | isNew
        · exact .inl isOld
        · rw [List.mem_singleton.mp isNew]
          exact .inr ⟨s.calls, Nat.le_refl _, isAsked⟩
    | removeSubscription handle =>
      cases run
      exact .inl (List.mem_of_mem_eraseP isNode)
  · rw [notifiedIn_map_accepted]
    exact fun _ isIn => by cases isIn

/-- The steps of a run, by the rule for runs. -/
theorem walk_notices (env : Env) (asked : Nat → UserCall → Prop) :
    Walk env asked fun s t => s.Notices asked → t.Notices asked where
  refl := fun _ => id
  trans := fun front back now => back (front now)
  user := userCall_notices
  record := fun s event plain now => by
    refine now.of_silent rfl rfl ?_ (Nat.le_refl _)
    cases event <;> first | rfl | cases plain
  notify := fun {s node packet} isNode wants last now => by
    refine now.of_append (fun _ => .inl) rfl (Nat.le_refl _) ?_
    intro told isTold
    rw [List.mem_singleton.mp isTold]
    exact ⟨now.nodes node isNode, wants, List.mem_of_getLast? last⟩
  fields := fun _ nodes _ log calls now =>
    now.of_silent nodes (log.trans (List.append_nil _).symm) rfl calls
  flush := fun _ now => now.of_silent rfl (List.append_nil _).symm rfl (Nat.le_refl _)
  write := fun {_ _ _ _ _ event} _ made now => by
    refine now.of_silent rfl rfl ?_ (Nat.le_refl _)
    cases event <;> first | rfl | cases made
  read := fun {s frame fconn host head time} _ now =>
    now.of_silent rfl rfl (by cases frame <;> rfl) (Nat.le_refl _)
  parse := fun {s frame packet host head} _ now =>
    now.of_silent rfl rfl (by cases packet <;> rfl) (Nat.le_refl _)

/-- Nobody has subscribed to a new connection. -/
theorem notices_start (asked : Nat → UserCall → Prop) (fconn : FrameConn) (host : Host) :
    (State.start fconn host).Notices asked where
  nodes := fun _ isIn => by cases isIn
  told := fun _ isIn => by cases isIn

end Walk

end Libmdr
