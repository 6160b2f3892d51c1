import Mathlib.Data.List.Basic

/-!
# Computations that leave a trace

A computation that records events as it runs, also when it does not return. `Safe` speaks
about all that it records and about what it returns; there is one rule for each way to build a
computation.
-/

set_option autoImplicit false

/-- The events so far, and the result if there is one. -/
structure Traced (ε α : Type) where
  events : List ε
  result : Option α

namespace Traced

variable {ε α β σ : Type}

/-- Nothing is recorded and nothing is returned. -/
def stuck : Traced ε α := ⟨[], none⟩

/-- Events that are recorded before the others. -/
def after (events : List ε) (x : Traced ε α) : Traced ε α := ⟨events ++ x.events, x.result⟩

/-- The second computation goes on where the first one returns. -/
def andThen (x : Traced ε α) (f : α → Traced ε β) : Traced ε β :=
  match x.result with
  | none => ⟨x.events, none⟩
  | some a => ⟨x.events ++ (f a).events, (f a).result⟩

instance : Monad (Traced ε) where
  pure a := ⟨[], some a⟩
  bind := andThen

@[simp] theorem after_result (events : List ε) (x : Traced ε α) :
    (x.after events).result = x.result := rfl

theorem bind_result (x : Traced ε α) (f : α → Traced ε β) :
    (x >>= f).result = x.result.bind fun a => (f a).result := by
  change (x.andThen f).result = _
  unfold andThen
  cases x.result with
  | none => rfl
  | some a => rfl

/-- What the first computation records stays recorded. -/
theorem mem_bind {x : Traced ε α} {event : ε} (isIn : event ∈ x.events) (f : α → Traced ε β) :
    event ∈ (x >>= f).events := by
  change event ∈ (x.andThen f).events
  unfold andThen
  cases x.result with
  | none => exact isIn
  | some a => exact List.mem_append_left _ isIn

/-- What is recorded satisfies `p`, and what is returned satisfies `q`. -/
structure Safe (p : ε → Prop) (q : α → Prop) (x : Traced ε α) : Prop where
  events : ∀ event ∈ x.events, p event
  result : ∀ a, x.result = some a → q a

namespace Safe

variable {p : ε → Prop} {q : α → Prop} {r : β → Prop} {x : Traced ε α}

theorem of_pure {a : α} (holds : q a) : (pure a : Traced ε α).Safe p q where
  events := fun _ isIn => by cases isIn
  result := fun b same => by
    obtain rfl := Option.some.inj same
    exact holds

theorem of_stuck : (stuck : Traced ε α).Safe p q where
  events := fun _ isIn => by cases isIn
  result := fun _ same => by cases same

theorem after {events : List ε} (first : ∀ event ∈ events, p event) (safe : x.Safe p q) :
    (x.after events).Safe p q where
  events := List.forall_mem_append.mpr ⟨first, safe.events⟩
  result := safe.result

/-- Safe parts make a safe whole when the first one hands on what the second one needs. -/
theorem bind {f : α → Traced ε β} (front : x.Safe p q) (back : ∀ a, q a → (f a).Safe p r) :
    (x >>= f).Safe p r := by
  change (x.andThen f).Safe p r
  unfold andThen
  cases returns : x.result with
  | none => exact ⟨front.events, fun _ same => by cases same⟩
  | some a =>
    have later := back a (front.result a returns)
    exact ⟨List.forall_mem_append.mpr ⟨front.events, later.events⟩, later.result⟩

/-- What every step keeps holds at the end of a run of steps. -/
theorem foldlM {f : σ → α → Traced ε σ} {q : σ → Prop} (step : ∀ s a, q s → (f s a).Safe p q)
    {s : σ} (start : q s) (as : List α) : (as.foldlM f s).Safe p q := by
  induction as generalizing s with
  | nil => exact of_pure start
  | cons a rest ih =>
    rw [List.foldlM_cons]
    exact (step s a start).bind fun t holds => ih holds

end Safe

end Traced
