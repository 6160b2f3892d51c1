import Libmdr.Device.Safety
import Libmdr.PacketConn.Delivery

/-!
# What a device asks its connection for

The packet connection of a device is asked for what the device asks for, when it is called and in
callbacks, and for nothing else. So what holds of a packet connection whatever it is asked for holds
here, of the calls in the record of the device.
-/

namespace Libmdr
set_option autoImplicit false

def Call.IsProcess : Call → Bool
  | .user _ => false
  | .process _ _ _ => true

theorem connCalls_subset {log more : List DeviceEvent} {c : UserCall} (isCall : c ∈ connCalls log) :
    c ∈ connCalls (log ++ more) := by
  rw [connCalls_append]
  exact List.mem_append_left _ isCall

/-! ## Following the packet connection -/

namespace Device

variable {env : DeviceEnv} {d d' : Device}

theorem follow_append {connEnv : Env} {xs ys : List Event} {k : Nat}
    (run : d.follow connEnv env (xs ++ ys) k = some d') :
    ∃ e, d.follow connEnv env xs k = some e ∧
      e.follow connEnv env ys (k + xs.countP Event.IsCallback) = some d' := by
  induction xs generalizing d k with
  | nil => exact ⟨d, rfl, run⟩
  | cons event rest ih =>
    rw [List.cons_append, follow] at run
    rw [follow]
    split at run
    · rename_i isCallback
      obtain ⟨e, called, run⟩ := Option.bind_eq_some_iff.mp run
      obtain ⟨asks, run⟩ := Option.ite_none_right_eq_some.mp run
      obtain ⟨e', front, back⟩ := ih run
      refine ⟨e', ?_, ?_⟩
      · rw [if_pos isCallback, called, Option.bind_eq_bind, Option.bind_some, if_pos asks, front]
      · rwa [List.countP_cons_of_pos isCallback, Nat.add_comm _ 1, ← Nat.add_assoc]
    · rename_i other
      rw [if_neg other, List.countP_cons_of_neg other]
      exact ih run

/-- What each callback keeps, all of them keep. By induction on the part of the record that was
followed, from its end: in front of a callback the device and its connection are coupled. -/
theorem follow_invariant {connEnv : Env} {before events : List Event} {k k' : Nat}
    (holds : Nat → Device → Prop) (scripted : Scripted connEnv k events k')
    (coupled : Coupled connEnv before d)
    (expected : ∀ front call back, before ++ events = front ++ .called call :: back →
      Expected front call)
    (step : ∀ {front event back l e e' more}, events = front ++ event :: back →
      Coupled connEnv (before ++ front) e →
      e.callback env (userCode env env.depth) event = some e' → e'.log = e.log ++ more →
      connCalls more = connEnv.script l → holds l e → holds (l + 1) e')
    (start : holds k d) (run : d.follow connEnv env events k = some d') : holds k' d' := by
  suffices along : ∀ front back d', events = front ++ back →
      d.follow connEnv env front k = some d' →
        holds (k + front.countP Event.IsCallback) d' by
    rw [scripted.countP]
    exact along events [] d' (List.append_nil _).symm run
  intro front
  induction front using List.reverseRecOn with
  | nil =>
    rintro back _ - ⟨⟩
    exact start
  | append_singleton front event ih =>
    intro back d' split run
    rw [List.append_assoc, List.singleton_append] at split
    obtain ⟨e, followed, last⟩ := follow_append run
    have now := ih (event :: back) e split followed
    rw [List.countP_append, ← Nat.add_assoc]
    rw [follow] at last
    split at last
    · rename_i isCallback
      obtain ⟨e', called, last⟩ := Option.bind_eq_some_iff.mp last
      obtain ⟨asks, ⟨⟩⟩ := Option.ite_none_right_eq_some.mp last
      obtain ⟨m, scripted⟩ := scripted.before split isCallback
      have coupled : Coupled connEnv (before ++ front) e := by
        refine follow_coupled scripted coupled ?_ followed
        intro early call rest isCall
        refine expected early call (rest ++ event :: back) ?_
        rw [split, ← List.append_assoc, isCall, List.append_assoc, List.cons_append]
      obtain ⟨-, more, log, -⟩ := callback_kept coupled.kept (userCode_keeps env _) (by
        rintro call rfl
        exact coupled.expected (expected _ call back (by rw [split, List.append_assoc]))) called
      rw [log, List.drop_left] at asks
      rw [List.countP_singleton, if_pos isCallback]
      exact step split coupled called log asks now
    · rename_i other
      cases last
      rwa [List.countP_singleton, if_neg other]

end Device

namespace DeviceConn

variable {env : Env} {deviceEnv : DeviceEnv} {x x' : DeviceConn}

/-- What each callback keeps while the packet connection runs, the call keeps. -/
theorem Reached.process_invariant {now : Timespec} {readable writable : Bool} {result : Int}
    {conn : State} {device : Device} (reached : x.Reached env)
    (processed : process env now readable writable x.conn = some (result, conn))
    (followed : x.device.follow env deviceEnv (conn.log.drop x.conn.log.length) x.conn.calls =
      some device)
    (holds : Nat → Device → Prop)
    (step : ∀ {front event back l e e' more}, conn.log = front ++ event :: back →
      Coupled env front e →
      e.callback deviceEnv (Device.userCode deviceEnv deviceEnv.depth) event = some e' →
      e'.log = e.log ++ more → connCalls more = env.script l → holds l e → holds (l + 1) e')
    (start : holds x.conn.calls x.device) : holds conn.calls device := by
  obtain ⟨events, records⟩ := process_records processed
  obtain ⟨fconn, host, before⟩ := reached.records
  obtain ⟨events', log, scripted⟩ := process_ran processed
  rw [records.log] at log
  obtain rfl := List.append_cancel_left log
  rw [records.log, List.drop_left] at followed
  refine Device.follow_invariant holds scripted reached.coupled
    ((before.trans records).expected rfl) ?_ start followed
  intro front event back l e e' more split
  exact step (by rw [records.log, split, List.append_assoc])

/-- The record of the device grows. -/
theorem Reached.call_grows {c : Call} (reached : x.Reached env)
    (called : x.call env deviceEnv c = some x') :
    ∃ more, x'.device.log = x.device.log ++ more := by
  obtain ⟨called, -⟩ := Option.filter_eq_some_iff.mp called
  cases c with
  | user c =>
    obtain ⟨device, ran, run⟩ := Option.bind_eq_some_iff.mp called
    obtain ⟨more, log, -⟩ := Device.call_leads (Device.userCode_keeps deviceEnv _) ran
    obtain ⟨conn, made, run⟩ := Option.bind_eq_some_iff.mp run
    cases run
    exact ⟨more, log⟩
  | process now readable writable =>
    obtain ⟨⟨result, conn⟩, processed, run⟩ := Option.bind_eq_some_iff.mp called
    obtain ⟨device, followed, run⟩ := Option.bind_eq_some_iff.mp run
    cases run
    refine reached.process_invariant processed followed
      (fun _ e => ∃ more, e.log = x.device.log ++ more) ?_ ⟨[], (List.append_nil _).symm⟩
    rintro front event back l e e' new - - - log' - ⟨more, log⟩
    exact ⟨more ++ new, by rw [log', log, List.append_assoc]⟩

theorem Reached.run_grows {calls : List Call} (reached : x.Reached env)
    (ran : x.run env deviceEnv calls = some x') :
    x'.Reached env ∧ ∃ more, x'.device.log = x.device.log ++ more := by
  refine Trace.foldlM_invariant (fun y => y.Reached env ∧
    ∃ more, y.device.log = x.device.log ++ more) ?_ ran ⟨reached, [], (List.append_nil _).symm⟩
  rintro y c z called ⟨reached, more, log⟩
  obtain ⟨new, log'⟩ := reached.call_grows called
  exact ⟨reached.call called, more ++ new, by rw [log', log, List.append_assoc]⟩

/-! ## The calls of the packet connection -/

/-- The call of the packet connection that `mdr_device_process_by_availability` is. -/
def Call.onConn : Call → Option Libmdr.Call
  | .user _ => none
  | .process now readable writable => some (.process now readable writable)

/-- The packet connection of a device does what a packet connection does: its process calls are
those of the device, and the others are calls that the device asked for. -/
theorem run_conn {calls : List Call} (reached : x.Reached env)
    (ran : x.run env deviceEnv calls = some x') :
    ∃ asked, Libmdr.run env asked x.conn = some x'.conn ∧
      asked.filter Libmdr.Call.IsProcess = calls.filterMap Call.onConn ∧
      ∀ c, .user c ∈ asked → c ∈ connCalls x'.device.log := by
  induction calls generalizing x with
  | nil =>
    cases ran
    exact ⟨[], rfl, rfl, fun _ isIn => by cases isIn⟩
  | cons c rest ih =>
    rw [run, List.foldlM_cons, Option.bind_eq_bind, Option.bind_eq_some_iff] at ran
    obtain ⟨y, called, ran⟩ := ran
    have reached' := reached.call called
    obtain ⟨later, runs, same, isAsked⟩ := ih reached' ran
    obtain ⟨-, more, log⟩ := reached'.run_grows ran
    obtain ⟨called, -⟩ := Option.filter_eq_some_iff.mp called
    cases c with
    | user c =>
      obtain ⟨device, made, called⟩ := Option.bind_eq_some_iff.mp called
      obtain ⟨new, grows, -⟩ := Device.call_leads (Device.userCode_keeps deviceEnv _) made
      obtain ⟨conn, asks, called⟩ := Option.bind_eq_some_iff.mp called
      cases called
      rw [grows, List.drop_left] at asks
      refine ⟨(connCalls new).map .user ++ later, ?_, ?_, ?_⟩
      · rw [Libmdr.run, List.foldlM_append, List.foldlM_map]
        exact Option.bind_eq_some_iff.mpr ⟨conn, asks, runs⟩
      · rw [List.filter_append, List.filter_map, same]
        exact congrArg (· ++ _) (List.map_eq_nil_iff.mpr (List.filter_eq_nil_iff.mpr fun _ _ =>
          Bool.false_ne_true))
      · intro other isIn
        rcases List.mem_append.mp isIn with isNow | isLater
        · obtain ⟨_, isNew, ⟨⟩⟩ := List.mem_map.mp isNow
          rw [log, grows]
          refine connCalls_subset ?_
          rw [connCalls_append]
          exact List.mem_append_right _ isNew
        · exact isAsked other isLater
    | process now readable writable =>
      obtain ⟨⟨result, conn⟩, processed, called⟩ := Option.bind_eq_some_iff.mp called
      obtain ⟨device, -, called⟩ := Option.bind_eq_some_iff.mp called
      cases called
      refine ⟨.process now readable writable :: later, ?_, ?_, ?_⟩
      · rw [Libmdr.run, List.foldlM_cons, Libmdr.call, processed]
        exact runs
      · rw [List.filter_cons_of_pos rfl, same]
        rfl
      · intro other isIn
        cases isIn with
        | tail _ isLater => exact isAsked other isLater

/-- What the script has for the callbacks that have run is what the device asked for. -/
theorem run_scripts {calls : List Call} {fconn : FrameConn} {host : Host}
    (ran : (start fconn host).run env deviceEnv calls = some x) :
    x.Reached env ∧ ∀ k < x.conn.calls, ∀ c ∈ env.script k, c ∈ connCalls x.device.log := by
  refine Trace.foldlM_invariant (fun y => y.Reached env ∧
    ∀ k < y.conn.calls, ∀ c ∈ env.script k, c ∈ connCalls y.device.log) ?_ ran
    ⟨reached_start env fconn host, fun _ begun => absurd begun (Nat.not_lt_zero _)⟩
  rintro y c z called ⟨reached, scripts⟩
  refine ⟨reached.call called, ?_⟩
  obtain ⟨called, -⟩ := Option.filter_eq_some_iff.mp called
  cases c with
  | user c =>
    obtain ⟨device, made, called⟩ := Option.bind_eq_some_iff.mp called
    obtain ⟨new, grows, -⟩ := Device.call_leads (Device.userCode_keeps deviceEnv _) made
    obtain ⟨conn, asks, called⟩ := Option.bind_eq_some_iff.mp called
    cases called
    obtain ⟨-, -, same, -⟩ := userCalls_asked asks
    intro k begun c isIn
    dsimp only at begun ⊢
    rw [same] at begun
    rw [grows]
    exact connCalls_subset (scripts k begun c isIn)
  | process now readable writable =>
    obtain ⟨⟨result, conn⟩, processed, called⟩ := Option.bind_eq_some_iff.mp called
    obtain ⟨device, followed, called⟩ := Option.bind_eq_some_iff.mp called
    cases called
    refine reached.process_invariant processed followed
      (fun l e => ∀ k < l, ∀ c ∈ env.script k, c ∈ connCalls e.log) ?_ scripts
    rintro front event back l e e' new - - - log asks scripts k begun c isIn
    rw [log]
    rcases Nat.lt_or_eq_of_le (Nat.le_of_lt_succ begun) with before | rfl
    · exact connCalls_subset (scripts k before c isIn)
    · rw [connCalls_append, asks]
      exact List.mem_append_right _ isIn

/-- The device asked for the call, unless it is one of a callback that has not begun. -/
def Asked (x : DeviceConn) (k : Nat) (c : UserCall) : Prop :=
  k ≤ x.conn.calls → c ∈ connCalls x.device.log

/-- What holds around all that a packet connection does holds here of what the device asked for. -/
theorem run_walk {calls : List Call} {fconn : FrameConn} {host : Host}
    {related : State → State → Prop} (ran : (start fconn host).run env deviceEnv calls = some x)
    (walk : Walk env x.Asked related) : related (State.start fconn host) x.conn := by
  obtain ⟨-, scripts⟩ := run_scripts ran
  obtain ⟨asked, runs, -, isAsked⟩ := run_conn (reached_start env fconn host) ran
  exact walk.run (fun k c isIn begun => scripts k begun c isIn)
    (fun c isIn _ _ => isAsked c isIn) runs

/-- Every request that was accepted was made for a packet that the device asked for. -/
theorem run_requests {calls : List Call} {fconn : FrameConn} {host : Host}
    (ran : (start fconn host).run env deviceEnv calls = some x) :
    ∀ accepted ∈ acceptedIn x.conn.log, ∃ packet,
      accepted.MadeFor env (· ∈ connCalls x.device.log) packet := by
  obtain ⟨-, events, log, made⟩ := run_walk ran (walk_requests env x.Asked)
  have whole : x.conn.log = events := log
  rw [whole]
  intro accepted isAccepted
  obtain ⟨k, begun, packet, isAsked, encoded⟩ := made accepted isAccepted
  exact ⟨packet, isAsked begun, encoded⟩

end DeviceConn

end Libmdr
