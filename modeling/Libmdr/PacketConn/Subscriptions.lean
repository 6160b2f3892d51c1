import Libmdr.PacketConn.Ending
import Libmdr.PacketConn.Receiving

/-!
# The list of subscriptions

What becomes of a packet while the list of subscriptions stays as it is: when no callback
subscribes or removes a subscription, a packet that is not for the first request goes to each
subscription that asks for it.
-/

namespace Libmdr
set_option autoImplicit false

/-! ## The nodes -/

/-- The handles of the nodes. -/
def handlesOf (nodes : List Subscription) : List Handle := nodes.map Subscription.handle

theorem handlesOf_eraseP (nodes : List Subscription) (handle : Handle) :
    handlesOf (nodes.eraseP fun node => node.handle = handle) = (handlesOf nodes).erase handle := by
  rw [handlesOf, handlesOf, List.erase_eq_eraseP', List.eraseP_map]
  rfl

/-- A node whose handle no earlier node has is found, and the node behind it is next. -/
theorem nextSubscription_split {node : Subscription} {before : List Subscription}
    (after : List Subscription) (first : ∀ other ∈ before, other.handle ≠ node.handle) :
    ((before ++ node :: after).find? fun other => other.handle = node.handle) = some node ∧
      nextSubscription node.handle (before ++ node :: after) =
        some (after.head?.map Subscription.handle) := by
  induction before with
  | nil => exact ⟨by simp, if_pos rfl⟩
  | cons other before ih =>
    have different := first other List.mem_cons_self
    obtain ⟨found, next⟩ := ih fun other isIn => first other (List.mem_cons_of_mem _ isIn)
    rw [List.cons_append, List.find?_cons_of_neg (by simpa using different), nextSubscription,
      if_neg different]
    exact ⟨found, next⟩

theorem nextSubscription_eq_none {handle : Handle} {nodes : List Subscription}
    (gone : handle ∉ handlesOf nodes) : nextSubscription handle nodes = none := by
  induction nodes with
  | nil => rfl
  | cons node rest ih =>
    rw [handlesOf, List.map_cons, List.mem_cons, not_or] at gone
    obtain ⟨different, notLater⟩ := gone
    rw [nextSubscription, if_neg fun same => different same.symm]
    exact ih notLater

/-! ## Callbacks that leave the list alone -/

/-- No callback subscribes, or removes a subscription. -/
def Env.KeepsList (env : Env) : Prop :=
  ∀ k, ∀ c ∈ env.script k, ∃ packet spec callbacks, c = .makeRequest packet spec callbacks

/-- Every callback returns. -/
def Env.CallbacksReturn (env : Env) : Prop :=
  ∀ k t, ((env.script k).foldlM (userCall env) t).isSome

section KeepsList

variable {env : Env} {now : Timespec} {s t : State} {result : Int}

theorem makeRequest_subscriptions {packet : Packet} {spec : ReplySpecifier}
    {callbacks : Callbacks} {handle : Option Handle}
    (run : makeRequest env packet spec callbacks s = some (handle, t)) :
    t.conn.subscriptions = s.conn.subscriptions := by
  simp only [makeRequest, Option.bind_eq_bind, Option.bind_eq_some_iff] at run
  obtain ⟨⟨frame, host⟩, made, run⟩ := run
  cases frame with
  | none =>
    cases run
    rfl
  | some frame =>
    dsimp only at run
    split at run <;> cases run <;> rfl

variable (keeps : env.KeepsList)
include keeps

theorem runCallback_subscriptions {event : Event} (run : runCallback env event s = some t) :
    t.conn.subscriptions = s.conn.subscriptions := by
  have kept := Trace.foldlM_related (fun s t => t.conn.subscriptions = s.conn.subscriptions)
    (fun _ => rfl) (fun _ _ _ => flip Eq.trans) ?_ run
  · exact kept
  · intro s c t isIn called
    obtain ⟨packet, spec, callbacks, rfl⟩ := keeps _ c isIn
    obtain ⟨⟨handle, u⟩, made, rfl⟩ := Option.map_eq_some_iff.mp called
    exact makeRequest_subscriptions made

theorem callResult_subscriptions {request : Request} {packet : Option Packet}
    (run : callResult env request packet s = some t) :
    t.conn.subscriptions = s.conn.subscriptions := by
  unfold callResult at run
  split at run
  · cases run
    rfl
  · exact runCallback_subscriptions keeps run

theorem callError_subscriptions {request : Request} {e : Errno}
    (run : callError env request e s = some t) :
    t.conn.subscriptions = s.conn.subscriptions := by
  unfold callError at run
  split at run
  · cases run
    rfl
  · have kept := runCallback_subscriptions keeps run
    exact kept

theorem giveUp_subscriptions {head : Request} (run : giveUp env now head s = some t) :
    t.conn.subscriptions = s.conn.subscriptions := by
  simp only [giveUp, Option.bind_eq_bind, Option.bind_eq_some_iff] at run
  obtain ⟨u, called, run⟩ := run
  cases run
  rw [State.advanceFrameQueue_subscriptions, callError_subscriptions keeps called]
  split <;> rfl

omit keeps in
theorem transmit_subscriptions {head : Request} (run : transmit env now head s = some (result, t)) :
    t.conn.subscriptions = s.conn.subscriptions := by
  obtain ⟨written, fconn, host, -, -, rfl⟩ := transmit_cases run
  split <;> rfl

/-- The flush and the send half leave the list alone. -/
theorem process_false_subscriptions {writable : Bool}
    (run : process env now false writable s = some (result, t)) :
    t.conn.subscriptions = s.conn.subscriptions := by
  obtain ⟨flushed, u, flush, ending⟩ := process_false_cases run
  have first : u.conn.subscriptions = s.conn.subscriptions := by
    obtain ⟨-, -, rfl⟩ | ⟨flushed, fconn, host, -, -, rfl, -⟩ := flushPart_cases flush <;> rfl
  obtain ⟨-, -, rfl⟩ | ⟨-, sent, send, -⟩ := ending
  · exact first
  · rw [← first]
    obtain ⟨head, rest, -, -, call⟩ | ⟨-, -, rfl | ⟨head, rest, -, -, -, -, gaveUp⟩⟩ :=
        sendPart_cases send
    · exact transmit_subscriptions call
    · rfl
    · exact giveUp_subscriptions keeps gaveUp

theorem receiveAck_subscriptions {frame : Frame} (run : receiveAck env now frame s = some t) :
    t.conn.subscriptions = s.conn.subscriptions := by
  unfold receiveAck at run
  split at run
  · cases run
    rfl
  · split at run
    · split at run
      · have kept := callResult_subscriptions keeps run
        exact kept
      · cases run
        rfl
    · cases run
      rfl

theorem notify_subscriptions {packet : Packet} {node : Subscription}
    (run : notify env packet node s = some t) :
    t.conn.subscriptions = s.conn.subscriptions := by
  unfold notify at run
  split at run
  · split at run
    · exact runCallback_subscriptions keeps run
    · cases run
      rfl
  · cases run
    rfl

end KeepsList

/-! ## Delivery -/

/-- The calls that a packet is to give, in the order of the subscriptions. -/
def deliveries (packet : Packet) (nodes : List Subscription) : List (Subscription × Packet) :=
  (nodes.filter fun node => node.Wants packet).map fun node => (node, packet)

section Delivery

variable {env : Env} {s t : State} {packet : Packet}

theorem State.Ordered.of_same (ordered : s.Ordered)
    (subscriptions : t.conn.subscriptions = s.conn.subscriptions)
    (handles : t.nextHandle = s.nextHandle) : t.Ordered where
  increasing := by
    rw [subscriptions]
    exact ordered.increasing
  bounded := by
    rw [subscriptions, handles]
    exact ordered.bounded

/-- In a list in order no earlier node has the handle of a node. -/
theorem State.Ordered.distinct {before after : List Subscription} {node : Subscription}
    (ordered : s.Ordered) (split : s.conn.subscriptions = before ++ node :: after) :
    ∀ other ∈ before, other.handle ≠ node.handle := by
  have increasing := ordered.increasing
  rw [split] at increasing
  intro other isIn
  exact Nat.ne_of_lt ((List.pairwise_append.mp increasing).2.2 other isIn node List.mem_cons_self)

/-- The loop from a node on calls each subscription that asks for the packet, once. -/
theorem dispatch_delivers (keeps : env.KeepsList) {rounds : Nat} {before after : List Subscription}
    (ordered : s.Ordered) (split : s.conn.subscriptions = before ++ after)
    (run : dispatch env packet rounds (after.head?.map Subscription.handle) s = some t) :
    t.conn.subscriptions = s.conn.subscriptions ∧
      ∃ events, t.log = s.log ++ events ∧ notifiedIn events = deliveries packet after := by
  induction after generalizing before rounds s with
  | nil =>
    cases rounds <;> cases run <;> exact ⟨rfl, [], (List.append_nil _).symm, rfl⟩
  | cons node after ih =>
    cases rounds with
    | zero => cases run
    | succ rounds =>
      obtain ⟨isNode, next⟩ := nextSubscription_split after (ordered.distinct split)
      simp only [List.head?_cons, Option.map_some, dispatch, split, isNode, Option.bind_eq_bind,
        Option.bind_some, Option.bind_eq_some_iff] at run
      obtain ⟨u, called, following, isNext, run⟩ := run
      have kept := notify_subscriptions keeps called
      rw [kept, split, next] at isNext
      cases isNext
      obtain ⟨here, log, -, calls, -⟩ := notify_calls called
      have onward : u.conn.subscriptions = (before ++ [node]) ++ after := by
        rw [kept, split, List.append_assoc, List.singleton_append]
      obtain ⟨same, events, later, rest⟩ := ih ((notify_noRead called).ordered ordered) onward run
      refine ⟨same.trans kept, here ++ events, by rw [later, log, List.append_assoc], ?_⟩
      rw [notifiedIn_append, calls, rest, deliveries, deliveries, List.filter_cons]
      split <;> rfl

theorem notify_returns (returns : env.CallbacksReturn) (packet : Packet) (node : Subscription)
    (s : State) : (notify env packet node s).isSome := by
  unfold notify
  split
  · split
    · exact returns _ _
    · rfl
  · rfl

/-- Callbacks that return let the loop return. -/
theorem dispatch_returns (keeps : env.KeepsList) (returns : env.CallbacksReturn) {rounds : Nat}
    {before after : List Subscription} (ordered : s.Ordered)
    (split : s.conn.subscriptions = before ++ after) (enough : after.length ≤ rounds) :
    (dispatch env packet rounds (after.head?.map Subscription.handle) s).isSome := by
  induction after generalizing before rounds s with
  | nil => cases rounds <;> rfl
  | cons node after ih =>
    cases rounds with
    | zero => exact absurd enough (Nat.not_succ_le_zero _)
    | succ rounds =>
      obtain ⟨isNode, next⟩ := nextSubscription_split after (ordered.distinct split)
      obtain ⟨u, called⟩ := Option.isSome_iff_exists.mp (notify_returns returns packet node s)
      have kept := notify_subscriptions keeps called
      simp only [List.head?_cons, Option.map_some, dispatch, split, isNode, Option.bind_eq_bind,
        Option.bind_some, called, kept, next]
      have onward : u.conn.subscriptions = (before ++ [node]) ++ after := by
        rw [kept, split, List.append_assoc, List.singleton_append]
      exact ih ((notify_noRead called).ordered ordered) onward (Nat.le_of_succ_le_succ enough)

/-- Callbacks that return let a call that has read a packet return. -/
theorem receivePacket_returns (keeps : env.KeepsList) (returns : env.CallbacksReturn)
    (ordered : s.Ordered) (enough : s.conn.subscriptions.length ≤ env.limit) :
    (receivePacket env packet s).isSome := by
  have orderedRecord : (s.record [.parsed packet s.conn.queue.requests.head?]).Ordered :=
    (State.NoRead.record _ _).ordered ordered
  have whole : (s.record [.parsed packet s.conn.queue.requests.head?]).conn.subscriptions =
      [] ++ s.conn.subscriptions := rfl
  have dispatched :
      (dispatch env packet env.limit (s.conn.subscriptions.head?.map Subscription.handle)
        (s.record [.parsed packet s.conn.queue.requests.head?])).isSome :=
    dispatch_returns keeps returns orderedRecord whole enough
  unfold receivePacket
  dsimp only [State.record_conn]
  split
  · exact dispatched
  split
  · unfold callResult
    split
    · rfl
    · exact returns _ _
  · exact dispatched

/-- The packet is the reply that the first request waits for. -/
def State.Consumes (s : State) (packet : Packet) : Bool :=
  s.conn.queue.requests.head?.any fun head => replySpecifierMatches head.expectedReply packet

theorem notifiedIn_ending (request : Request) (outcome : Outcome) :
    notifiedIn (request.ending outcome) = [] := by
  unfold Request.ending
  cases request.callOf outcome <;> rfl

/-- A packet goes to the first request, or to the subscriptions. -/
theorem receivePacket_delivers (keeps : env.KeepsList) (ordered : s.Ordered)
    (run : receivePacket env packet s = some t) :
    t.conn.subscriptions = s.conn.subscriptions ∧
      ∃ events, t.log = s.log ++ events ∧ notifiedIn events =
        if s.Consumes packet then [] else deliveries packet s.conn.subscriptions := by
  have toSubscriptions (notFirst : s.Consumes packet = false)
      (run : dispatch env packet env.limit (s.conn.subscriptions.head?.map Subscription.handle)
        (s.record [.parsed packet s.conn.queue.requests.head?]) = some t) :
      t.conn.subscriptions = s.conn.subscriptions ∧
        ∃ events, t.log = s.log ++ events ∧ notifiedIn events =
          if s.Consumes packet then [] else deliveries packet s.conn.subscriptions := by
    have orderedRecord : (s.record [.parsed packet s.conn.queue.requests.head?]).Ordered :=
      (State.NoRead.record _ _).ordered ordered
    have whole : (s.record [.parsed packet s.conn.queue.requests.head?]).conn.subscriptions =
        [] ++ s.conn.subscriptions := rfl
    obtain ⟨kept, events, log, calls⟩ := dispatch_delivers keeps orderedRecord whole run
    refine ⟨kept, [.parsed packet s.conn.queue.requests.head?] ++ events, ?_, ?_⟩
    · rw [log, State.record_log, List.append_assoc]
    · rw [notFirst, if_neg Bool.false_ne_true, notifiedIn_append, calls]
      rfl
  unfold receivePacket at run
  dsimp only [State.record_conn] at run
  split at run
  · rename_i none
    exact toSubscriptions (by rw [State.Consumes, none]; rfl) run
  rename_i head rest first
  have same : s.Consumes packet = replySpecifierMatches head.expectedReply packet := by
    rw [State.Consumes, first]
    rfl
  split at run
  · rename_i isMatch
    have kept := callResult_subscriptions keeps run
    obtain ⟨new, added⟩ := callResult_added (show head.callOf (.reply packet) = _ from rfl) run
    refine ⟨kept, [.parsed packet s.conn.queue.requests.head?] ++ (head.ending (.reply packet) ++
      new.map .accepted), ?_, ?_⟩
    · rw [added.log]
      simp [Request.ending]
    · rw [same, isMatch, if_pos rfl, notifiedIn_append, notifiedIn_append, notifiedIn_ending,
        notifiedIn_map_accepted]
      rfl
  · rename_i noMatch
    exact toSubscriptions (by rw [same]; simpa using noMatch) run

end Delivery

section Process

variable {env : Env} {now : Timespec} {s t : State} {result : Int} (keeps : env.KeepsList)
include keeps

/-- A data frame goes where its packet goes. -/
theorem receiveFrame_delivers {frame : Frame} {packet : Packet} (ordered : s.Ordered)
    (isData : frame.dataType = frameDataTypeDataMdr)
    (parsed : parsedPacket env frame s = some packet)
    (run : receiveFrame env now frame s = some (result, t)) :
    ∃ events, t.log = s.log ++ events ∧ notifiedIn events =
      if s.Consumes packet then [] else deliveries packet s.conn.subscriptions := by
  obtain ⟨written, u, log, queue, subscriptions, handles, ⟨none, -⟩ | ⟨packet', same, run⟩⟩ :=
    receiveFrame_data isData run
  · rw [none] at parsed
    cases parsed
  · obtain rfl := Option.some.inj (same.symm.trans parsed)
    have orderedThen := ordered.of_same subscriptions handles
    obtain ⟨-, events, later, calls⟩ := receivePacket_delivers keeps orderedThen run
    refine ⟨_, by rw [later, log, List.append_assoc], ?_⟩
    rw [notifiedIn_append, calls, State.Consumes, State.Consumes, queue, subscriptions]
    rfl

theorem receiveFrame_subscriptions {frame : Frame} (ordered : s.Ordered)
    (run : receiveFrame env now frame s = some (result, t)) :
    t.conn.subscriptions = s.conn.subscriptions := by
  by_cases isData : frame.dataType = frameDataTypeDataMdr
  · obtain ⟨written, u, -, -, subscriptions, handles, ⟨-, rfl⟩ | ⟨packet, -, run⟩⟩ :=
      receiveFrame_data isData run
    · exact subscriptions
    · have orderedThen := ordered.of_same subscriptions handles
      exact (receivePacket_delivers keeps orderedThen run).1.trans subscriptions
  · unfold receiveFrame at run
    dsimp only at run
    split at run
    · simp only [Option.bind_eq_bind, Option.bind_eq_some_iff] at run
      obtain ⟨u, received, run⟩ := run
      cases run
      have kept := receiveAck_subscriptions keeps received
      exact kept
    · cases run
      rfl

theorem readsFrame_subscriptions {writable : Bool} {frame : Option Frame}
    (reads : readsFrame env now writable s = some (frame, t)) :
    t.conn.subscriptions = s.conn.subscriptions := by
  obtain ⟨u, c, h, before, -, rfl⟩ := readsFrame_split.mp reads
  have kept := process_false_subscriptions keeps before
  exact kept

/-- A call leaves the list alone. -/
theorem process_subscriptions {readable writable : Bool} (ordered : s.Ordered)
    (run : process env now readable writable s = some (result, t)) :
    t.conn.subscriptions = s.conn.subscriptions := by
  cases readable with
  | false => exact process_false_subscriptions keeps run
  | true =>
    rw [process_true, Option.bind_eq_some_iff] at run
    obtain ⟨⟨sent, u⟩, before, run⟩ := run
    have first := process_false_subscriptions keeps before
    have orderedThen : u.Ordered := ordered_invariant.process before ordered
    dsimp only at run
    split at run
    · cases run
      exact first
    · unfold receivePart at run
      split at run
      · cases run
      · cases run
        exact first
      · rename_i frame fconn host read
        have orderedRead : (u.afterRead fconn host).Ordered := orderedThen.of_same rfl rfl
        exact (receiveFrame_subscriptions keeps orderedRead run).trans first

/-- Where a packet goes that a call reads: to the first request, or to each of the
subscriptions that asks for it. -/
theorem process_delivers {writable : Bool} {frame : Frame} {before : State} {packet : Packet}
    (ordered : s.Ordered) (reads : readsFrame env now writable s = some (some frame, before))
    (isData : frame.dataType = frameDataTypeDataMdr)
    (parsed : parsedPacket env frame before = some packet)
    (run : process env now true writable s = some (result, t)) :
    ∃ events, t.log = before.log ++ events ∧ notifiedIn events =
      if before.Consumes packet then [] else deliveries packet s.conn.subscriptions := by
  have orderedBefore := ordered_invariant.readsFrame reads ordered
  rw [process_of_readsFrame reads] at run
  rw [← readsFrame_subscriptions keeps reads]
  exact receiveFrame_delivers keeps orderedBefore isData parsed run

/-- A call that reads a packet returns when the callbacks do. -/
theorem process_returns {writable : Bool} {frame : Frame} {before : State} {packet : Packet}
    (returns : env.CallbacksReturn) (enough : s.conn.subscriptions.length ≤ env.limit)
    (ordered : s.Ordered) (reads : readsFrame env now writable s = some (some frame, before))
    (isData : frame.dataType = frameDataTypeDataMdr)
    (parsed : parsedPacket env frame before = some packet) :
    (process env now true writable s).isSome := by
  have orderedBefore := ordered_invariant.readsFrame reads ordered
  have notAck : frame.dataType ≠ frameDataTypeAck := by
    rw [isData]
    decide
  rw [← readsFrame_subscriptions keeps reads] at enough
  rw [process_of_readsFrame reads]
  simp only [parsedPacket, Option.bind_eq_bind, Option.bind_eq_some_iff] at parsed
  obtain ⟨⟨written, fconn, host⟩, wrote, ⟨_, host'⟩, read, rfl⟩ := parsed
  have received (u : State) (subscriptions : u.conn.subscriptions = before.conn.subscriptions)
      (handles : u.nextHandle = before.nextHandle) : (receivePacket env packet u).isSome := by
    rw [← subscriptions] at enough
    exact receivePacket_returns keeps returns (orderedBefore.of_same subscriptions handles) enough
  simp only [receiveFrame, if_neg notAck, if_pos isData, receiveData, Option.bind_eq_bind]
  change ((before.conn.fconn.writeFrame env.heap before.host (ackFrame frame)).bind _).isSome = true
  rw [wrote, Option.bind_some]
  change ((Packet.fromFrame env.heap frame host).bind _).isSome = true
  rw [read, Option.bind_some, Option.isSome_bind]
  simp only [Option.pure_def, Option.isSome_some, Option.any_true]
  exact received _ rfl rfl

end Process

end Libmdr
