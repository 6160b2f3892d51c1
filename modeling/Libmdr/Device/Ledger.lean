import Libmdr.Device.Model
import Libmdr.Lib.Trace
import Mathlib.Data.List.Perm.Basic
import Mathlib.Data.List.Range

/-!
# What becomes of an operation

The life of the operations of a device, without the device. An operation is started, and then
either ends with a call of the user's callback or goes into a record and waits. When the packet
connection calls back with a record, its operation is open again.

No operation is lost or ends twice: those that are open, wait or ended are those that were
started.
-/

namespace Libmdr
set_option autoImplicit false

/-- An operation and its callbacks. -/
abbrev Job := Ticket × UserCallbacks

def CallbackData.job (data : CallbackData) : Job := (data.ticket, data.callbacks)

/-- The call is one of the operation's callbacks, with its user data. -/
structure Answer.Is (answer : Answer) (callbacks : UserCallbacks) : Prop where
  fn : match answer.reply with
    | .result _ => callbacks.result = some answer.fn
    | .error => callbacks.error = some answer.fn
  userData : answer.userData = callbacks.userData

/-- What `device.c` passes to `mdr_device_make_request`. -/
def DeviceRequest.Proper (request : DeviceRequest) : Prop :=
  (∃ (operation : Operation) (supported : SupportedFunctions),
    operation.request supported = some request) ∨ request = Device.supportFunctionRequest

/-! ## The record -/

namespace DeviceEvent

def started? : DeviceEvent → Option Job
  | .started ticket _ callbacks => some (ticket, callbacks)
  | _ => none

def requested? : DeviceEvent → Option CallbackData
  | .requested data _ => some data
  | _ => none

def calledBack? : DeviceEvent → Option CallbackData
  | .calledBack data => some data
  | _ => none

def answered? : DeviceEvent → Option (Ticket × Answer)
  | .answered ticket answer => some (ticket, answer)
  | _ => none

def dropped? : DeviceEvent → Option Ticket
  | .dropped ticket => some ticket
  | _ => none

end DeviceEvent

/-- The operations that were started. -/
def startedIn (events : List DeviceEvent) : List Job := events.filterMap DeviceEvent.started?

/-- The records with which requests were made. -/
def recordsIn (events : List DeviceEvent) : List CallbackData :=
  events.filterMap DeviceEvent.requested?

/-- The records with which the packet connection called back. -/
def calledBackIn (events : List DeviceEvent) : List CallbackData :=
  events.filterMap DeviceEvent.calledBack?

/-- The calls of user callbacks of operations. -/
def answeredIn (events : List DeviceEvent) : List (Ticket × Answer) :=
  events.filterMap DeviceEvent.answered?

/-- The operations that ended without a call. -/
def droppedIn (events : List DeviceEvent) : List Ticket := events.filterMap DeviceEvent.dropped?

section

variable (past : List DeviceEvent) (event : DeviceEvent)

theorem recordsIn_append (xs ys : List DeviceEvent) :
    recordsIn (xs ++ ys) = recordsIn xs ++ recordsIn ys := List.filterMap_append

theorem calledBackIn_append (xs ys : List DeviceEvent) :
    calledBackIn (xs ++ ys) = calledBackIn xs ++ calledBackIn ys := List.filterMap_append

@[simp] theorem startedIn_concat :
    startedIn (past ++ [event]) = startedIn past ++ event.started?.toList := by
  cases event <;> simp [startedIn, DeviceEvent.started?]

@[simp] theorem recordsIn_concat :
    recordsIn (past ++ [event]) = recordsIn past ++ event.requested?.toList := by
  cases event <;> simp [recordsIn, DeviceEvent.requested?]

@[simp] theorem calledBackIn_concat :
    calledBackIn (past ++ [event]) = calledBackIn past ++ event.calledBack?.toList := by
  cases event <;> simp [calledBackIn, DeviceEvent.calledBack?]

@[simp] theorem answeredIn_concat :
    answeredIn (past ++ [event]) = answeredIn past ++ event.answered?.toList := by
  cases event <;> simp [answeredIn, DeviceEvent.answered?]

@[simp] theorem droppedIn_concat :
    droppedIn (past ++ [event]) = droppedIn past ++ event.dropped?.toList := by
  cases event <;> simp [droppedIn, DeviceEvent.dropped?]

end

/-- The calls of the user callbacks of one operation. -/
def answersOf (events : List DeviceEvent) (ticket : Ticket) : List Answer :=
  ((answeredIn events).filter fun answered => answered.1 = ticket).map Prod.snd

/-- One of the operation's callbacks is called, once, and the other is not. -/
def AnsweredOnce (events : List DeviceEvent) (ticket : Ticket) (callbacks : UserCallbacks) : Prop :=
  ∃ answer, answersOf events ticket = [answer] ∧ answer.Is callbacks

/-! ## The steps -/

/-- The operations that have not ended. -/
structure Ledger where
  /-- The operation that neither waits nor ended. -/
  opened : Option Job
  /-- The records that a request was made with, less those that were called back. -/
  held : List CallbackData
  nextTicket : Ticket
  nextAddress : Address

namespace Ledger

def start : Ledger := { opened := none, held := [], nextTicket := 0, nextAddress := 0 }

/-- One event. -/
inductive Step : Ledger → DeviceEvent → Ledger → Prop
  | started (held : List CallbackData) (ticket : Ticket) (address : Address)
      (operation : Operation) (callbacks : UserCallbacks) :
      Step ⟨none, held, ticket, address⟩ (.started ticket operation callbacks)
        ⟨some (ticket, callbacks), held, ticket + 1, address⟩
  | requested (held : List CallbackData) (ticket : Ticket) (data : CallbackData)
      (request : DeviceRequest) (proper : request.Proper) :
      Step ⟨some data.job, held, ticket, data.address⟩ (.requested data request)
        ⟨none, held ++ [data], ticket, data.address + 1⟩
  | calledBack (front back : List CallbackData) (data : CallbackData) (ticket : Ticket)
      (address : Address) :
      Step ⟨none, front ++ data :: back, ticket, address⟩ (.calledBack data)
        ⟨some data.job, front ++ back, ticket, address⟩
  | answered (job : Job) (answer : Answer) (held : List CallbackData) (ticket : Ticket)
      (address : Address) (isAnswer : answer.Is job.2) :
      Step ⟨some job, held, ticket, address⟩ (.answered job.1 answer) ⟨none, held, ticket, address⟩
  | dropped (job : Job) (held : List CallbackData) (ticket : Ticket) (address : Address)
      (isNull : job.2.result = none ∨ job.2.error = none) :
      Step ⟨some job, held, ticket, address⟩ (.dropped job.1) ⟨none, held, ticket, address⟩
  | refused (l : Ledger) : Step l .refused l
  | removed (l : Ledger) (handle : Handle) : Step l (.removed handle) l
  | updated (l : Ledger) (fn : FnPtr) (args : CallbackArgs) (userData : Nat) :
      Step l (.updated fn args userData) l
  | subscribed (opened : Option Job) (held : List CallbackData) (ticket : Ticket)
      (address : Address) (subscribe : DeviceSubscribe) :
      Step ⟨opened, held, ticket, address⟩ (.subscribed address subscribe)
        ⟨opened, held, ticket, address + 1⟩

/-! ## No operation is lost -/

/-- The operations that are open, wait or ended are those that were started. -/
structure Balanced (past : List DeviceEvent) (l : Ledger) : Prop where
  tickets : (startedIn past).map Prod.fst = List.range l.nextTicket
  balance : (l.opened.toList.map Prod.fst ++ l.held.map CallbackData.ticket ++
    (answeredIn past).map Prod.fst ++ droppedIn past).Perm ((startedIn past).map Prod.fst)

/-- Each event keeps the account of what was started, answered and dropped. -/
theorem Balanced.step {past : List DeviceEvent} {l l' : Ledger} {event : DeviceEvent}
    (balanced : Balanced past l) (step : Step l event l') : Balanced (past ++ [event]) l' := by
  obtain ⟨tickets, balance⟩ := balanced
  rw [List.perm_iff_count] at balance
  constructor
  · cases step with
    | started held ticket address operation callbacks =>
      simp [DeviceEvent.started?, tickets, List.range_succ]
    | _ => simpa [DeviceEvent.started?] using tickets
  · rw [List.perm_iff_count]
    intro t
    have before := balance t
    cases step <;>
      simp [DeviceEvent.started?, DeviceEvent.answered?, DeviceEvent.dropped?, CallbackData.job,
        List.count_append, List.count_cons] at before ⊢ <;>
      omega

/-! ## Operations keep their callbacks -/

/-- Operations that are open or wait have the callbacks that they were started with, and those
that ended without a call have none for it. -/
structure Known (past : List DeviceEvent) (l : Ledger) : Prop where
  jobs : ∀ job ∈ l.opened.toList ++ l.held.map CallbackData.job, job ∈ startedIn past
  answers : ∀ answered ∈ answeredIn past, ∃ callbacks,
    (answered.1, callbacks) ∈ startedIn past ∧ answered.2.Is callbacks
  drops : ∀ ticket ∈ droppedIn past, ∃ callbacks : UserCallbacks,
    (ticket, callbacks) ∈ startedIn past ∧ (callbacks.result = none ∨ callbacks.error = none)

theorem Known.step {past : List DeviceEvent} {l l' : Ledger} {event : DeviceEvent}
    (known : Known past l) (step : Step l event l') : Known (past ++ [event]) l' := by
  obtain ⟨jobs, answers, drops⟩ := known
  have later (job : Job) (isIn : job ∈ startedIn past) : job ∈ startedIn (past ++ [event]) := by
    rw [startedIn_concat]
    exact List.mem_append_left _ isIn
  have answersLater : ∀ answered ∈ answeredIn past, ∃ callbacks,
      (answered.1, callbacks) ∈ startedIn (past ++ [event]) ∧ answered.2.Is callbacks := by
    intro answered isIn
    obtain ⟨callbacks, isStarted, isAnswer⟩ := answers answered isIn
    exact ⟨callbacks, later _ isStarted, isAnswer⟩
  have dropsLater : ∀ ticket ∈ droppedIn past, ∃ callbacks : UserCallbacks,
      (ticket, callbacks) ∈ startedIn (past ++ [event]) ∧
        (callbacks.result = none ∨ callbacks.error = none) := by
    intro ticket isIn
    obtain ⟨callbacks, isStarted, isNull⟩ := drops ticket isIn
    exact ⟨callbacks, later _ isStarted, isNull⟩
  constructor
  · intro job isJob
    cases step with
    | started held ticket address operation callbacks =>
      rcases List.mem_cons.mp isJob with rfl | isHeld
      · simp [DeviceEvent.started?]
      · exact later job (jobs job isHeld)
    | requested held ticket data request proper =>
      have sameJobs := (List.perm_append_singleton data held).map CallbackData.job
      exact later job (jobs job (sameJobs.mem_iff.mp isJob))
    | calledBack front back data ticket address =>
      have sameJobs : ((front ++ data :: back).map CallbackData.job).Perm
          (data.job :: (front ++ back).map CallbackData.job) := List.perm_middle.map _
      exact later job (jobs job (sameJobs.mem_iff.mpr isJob))
    | answered job answer held ticket address isAnswer =>
      exact later _ (jobs _ (List.mem_cons_of_mem _ isJob))
    | dropped job held ticket address isNull =>
      exact later _ (jobs _ (List.mem_cons_of_mem _ isJob))
    | _ => exact later job (jobs job isJob)
  · intro answered isAnswered
    cases step with
    | answered job answer held ticket address isAnswer =>
      rw [answeredIn_concat] at isAnswered
      rcases List.mem_append.mp isAnswered with isOld | isNew
      · exact answersLater answered isOld
      · cases List.mem_singleton.mp isNew
        exact ⟨job.2, later _ (jobs _ List.mem_cons_self), isAnswer⟩
    | _ => exact answersLater answered (by simpa [DeviceEvent.answered?] using isAnswered)
  · intro t isDropped
    cases step with
    | dropped job held ticket address isNull =>
      rw [droppedIn_concat] at isDropped
      rcases List.mem_append.mp isDropped with isOld | isNew
      · exact dropsLater t isOld
      · cases List.mem_singleton.mp isNew
        exact ⟨job.2, later _ (jobs _ List.mem_cons_self), isNull⟩
    | _ => exact dropsLater t (by simpa [DeviceEvent.dropped?] using isDropped)

/-! ## Records have addresses of their own -/

/-- The records that wait or were called back are those that were made, each at a new address. -/
structure Addressed (past : List DeviceEvent) (l : Ledger) : Prop where
  records : (l.held ++ calledBackIn past).Perm (recordsIn past)
  increasing : (recordsIn past).Pairwise fun a b => a.address < b.address
  below : ∀ data ∈ recordsIn past, data.address < l.nextAddress

theorem Addressed.step {past : List DeviceEvent} {l l' : Ledger} {event : DeviceEvent}
    (addressed : Addressed past l) (step : Step l event l') :
    Addressed (past ++ [event]) l' := by
  obtain ⟨records, increasing, below⟩ := addressed
  cases step with
  | requested held ticket data request proper =>
    refine ⟨?_, ?_, ?_⟩
    · rw [List.perm_iff_count] at records ⊢
      intro d
      have before := records d
      simp [DeviceEvent.calledBack?, DeviceEvent.requested?, List.count_append, List.count_cons]
        at before ⊢
      omega
    · simpa [DeviceEvent.requested?, List.pairwise_append] using ⟨increasing, below⟩
    · intro d isIn
      rw [recordsIn_concat] at isIn
      rcases List.mem_append.mp isIn with isOld | isNew
      · exact Nat.lt_succ_of_lt (below d isOld)
      · rw [List.mem_singleton.mp isNew]
        exact Nat.lt_succ_self _
  | calledBack front back data ticket address =>
    refine ⟨?_, by simpa [DeviceEvent.requested?] using increasing,
      by simpa [DeviceEvent.requested?] using below⟩
    rw [List.perm_iff_count] at records ⊢
    intro d
    have before := records d
    simp [DeviceEvent.calledBack?, DeviceEvent.requested?, List.count_append, List.count_cons]
      at before ⊢
    omega
  | subscribed opened held ticket address subscribe =>
    refine ⟨by simpa [DeviceEvent.calledBack?, DeviceEvent.requested?] using records,
      by simpa [DeviceEvent.requested?] using increasing, ?_⟩
    intro d isIn
    refine Nat.lt_succ_of_lt (below d ?_)
    simpa [DeviceEvent.requested?] using isIn
  | _ =>
    exact ⟨by simpa [DeviceEvent.calledBack?, DeviceEvent.requested?] using records,
      by simpa [DeviceEvent.requested?] using increasing,
      by simpa [DeviceEvent.requested?] using below⟩

/-! ## Whole runs -/

/-- What holds of a ledger and the record that it came from. -/
structure Sound (past : List DeviceEvent) (l : Ledger) : Prop where
  balanced : Balanced past l
  known : Known past l
  addressed : Addressed past l

theorem sound {past : List DeviceEvent} {l : Ledger} (run : Trace.Run Step start past l) :
    Sound past l := by
  refine run.invariant Sound ⟨⟨rfl, .refl _⟩, ⟨?_, ?_, ?_⟩, ⟨.refl _, .nil, ?_⟩⟩ ?_
  · exact fun _ isIn => by cases isIn
  · exact fun _ isIn => by cases isIn
  · exact fun _ isIn => by cases isIn
  · exact fun _ isIn => by cases isIn
  · intro past t event t' now step
    exact ⟨now.balanced.step step, now.known.step step, now.addressed.step step⟩

/-- Every request of a run is one that `device.c` makes. -/
theorem run_proper {past : List DeviceEvent} {l : Ledger} {data : CallbackData}
    {request : DeviceRequest} (run : Trace.Run Step start past l)
    (isIn : .requested data request ∈ past) : request.Proper := by
  obtain ⟨front, back, rfl⟩ := List.append_of_mem isIn
  obtain ⟨t, t', -, step, -⟩ := run.at_label
  cases step with
  | requested held ticket data request proper => exact proper

namespace Sound

variable {past : List DeviceEvent} {l : Ledger}

/-- No two records of a run have one address. -/
theorem addresses_nodup (sound : Sound past l) :
    ((recordsIn past).map CallbackData.address).Nodup := by
  rw [List.Nodup, List.pairwise_map]
  exact sound.addressed.increasing.imp fun less => Nat.ne_of_lt less

/-- Records are told apart by their addresses. -/
theorem record_ext (sound : Sound past l) {a b : CallbackData} (isA : a ∈ recordsIn past)
    (isB : b ∈ recordsIn past) (same : a.address = b.address) : a = b :=
  List.inj_on_of_nodup_map sound.addresses_nodup isA isB same

theorem held_iff (sound : Sound past l) {data : CallbackData} (isRecord : data ∈ recordsIn past) :
    data ∈ l.held ↔ data ∉ calledBackIn past := by
  have once := sound.addressed.records.nodup_iff.mpr (.of_map _ sound.addresses_nodup)
  have isSomewhere := sound.addressed.records.mem_iff.mpr isRecord
  constructor
  · exact fun isHeld isBack => List.disjoint_of_nodup_append once isHeld isBack
  · exact (List.mem_append.mp isSomewhere).resolve_right

theorem tickets_nodup (sound : Sound past l) : ((startedIn past).map Prod.fst).Nodup := by
  rw [sound.balanced.tickets]
  exact List.nodup_range

/-- The callbacks of a ticket. -/
theorem callbacks_ext (sound : Sound past l) {ticket : Ticket} {a b : UserCallbacks}
    (isA : (ticket, a) ∈ startedIn past) (isB : (ticket, b) ∈ startedIn past) : a = b :=
  congrArg Prod.snd (List.inj_on_of_nodup_map sound.tickets_nodup isA isB rfl)

/-- The tickets of what ended. -/
theorem count_answered (past : List DeviceEvent) (ticket : Ticket) :
    ((answeredIn past).map Prod.fst).count ticket = (answersOf past ticket).length := by
  rw [answersOf, List.length_map, List.count_eq_countP, List.countP_map, List.countP_eq_length_filter]
  rfl

/-- An operation with both callbacks is answered once unless one of its records still waits. -/
theorem answeredOnce_iff (sound : Sound past l) (ended : l.opened = none) {ticket : Ticket}
    {callbacks : UserCallbacks} (isStarted : (ticket, callbacks) ∈ startedIn past)
    (result : callbacks.result ≠ none) (error : callbacks.error ≠ none) :
    AnsweredOnce past ticket callbacks ↔
      ∀ data ∈ recordsIn past, data.ticket = ticket → data ∈ calledBackIn past := by
  have balance := List.perm_iff_count.mp sound.balanced.balance ticket
  have one : ((startedIn past).map Prod.fst).count ticket = 1 :=
    List.count_eq_one_of_mem sound.tickets_nodup (List.mem_map_of_mem isStarted)
  have drops : (droppedIn past).count ticket = 0 := by
    rw [List.count_eq_zero]
    intro isDropped
    obtain ⟨others, isOther, isNull⟩ := sound.known.drops ticket isDropped
    obtain rfl := sound.callbacks_ext isStarted isOther
    exact isNull.elim result error
  rw [ended, one] at balance
  simp only [Option.toList_none, List.map_nil, List.nil_append, List.count_append, drops,
    Nat.add_zero, count_answered] at balance
  constructor
  · rintro ⟨answer, only, -⟩ data isRecord isTicket
    rw [only, List.length_singleton, Nat.add_eq_right, List.count_eq_zero] at balance
    by_contra waits
    refine balance (List.mem_map.mpr ⟨data, (sound.held_iff isRecord).mpr waits, isTicket⟩)
  · intro allBack
    have noneHeld : (l.held.map CallbackData.ticket).count ticket = 0 := by
      rw [List.count_eq_zero]
      intro isHeld
      obtain ⟨data, isHeld, isTicket⟩ := List.mem_map.mp isHeld
      have isRecord := sound.addressed.records.mem_iff.mp (List.mem_append_left _ isHeld)
      exact (sound.held_iff isRecord).mp isHeld (allBack data isRecord isTicket)
    rw [noneHeld, Nat.zero_add] at balance
    obtain ⟨answer, only⟩ := List.length_eq_one_iff.mp balance
    refine ⟨answer, only, ?_⟩
    have isAnswer : answer ∈ answersOf past ticket := by
      rw [only]
      exact List.mem_singleton_self answer
    obtain ⟨⟨t, made⟩, isMade, rfl⟩ := List.mem_map.mp isAnswer
    obtain ⟨isMade, isTicket⟩ := List.mem_filter.mp isMade
    obtain ⟨others, isOther, isOf⟩ := sound.known.answers _ isMade
    obtain rfl : t = ticket := of_decide_eq_true isTicket
    exact sound.callbacks_ext isStarted isOther ▸ isOf

end Sound

end Ledger

end Libmdr
