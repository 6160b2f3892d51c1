import Mathlib.Data.List.Basic

/-!
# Labelled runs

A transition relation with a label on every step, the runs along a list of
labels, and the two rules that proofs about them use: an invariant that may speak
about the labels so far, and the step at which a given label was taken.
-/

namespace Trace
set_option autoImplicit false

variable {σ α : Type} {step : σ → α → σ → Prop}

/-- A run along a list of labels. -/
inductive Run (step : σ → α → σ → Prop) : σ → List α → σ → Prop
  | nil (s : σ) : Run step s [] s
  | cons {s t u : σ} {a : α} {as : List α} (first : step s a t) (rest : Run step t as u) :
      Run step s (a :: as) u

theorem Run.single {s t : σ} {a : α} (only : step s a t) : Run step s [a] t :=
  .cons only (.nil t)

theorem Run.append {s t u : σ} {as bs : List α} (front : Run step s as t)
    (back : Run step t bs u) : Run step s (as ++ bs) u := by
  induction front with
  | nil => exact back
  | cons first _ ih => exact .cons first (ih back)

theorem run_append {s u : σ} {as bs : List α} :
    Run step s (as ++ bs) u ↔ ∃ t, Run step s as t ∧ Run step t bs u := by
  constructor
  · intro run
    induction as generalizing s with
    | nil => exact ⟨s, .nil s, run⟩
    | cons a as ih =>
      cases run with
      | cons first rest =>
        obtain ⟨t, front, back⟩ := ih rest
        exact ⟨t, .cons first front, back⟩
  · rintro ⟨t, front, back⟩
    exact front.append back

/-- The step at which a label was taken. -/
theorem Run.at_label {s u : σ} {before after : List α} {a : α}
    (run : Run step s (before ++ a :: after) u) :
    ∃ t t', Run step s before t ∧ step t a t' ∧ Run step t' after u := by
  obtain ⟨t, front, back⟩ := run_append.mp run
  cases back with
  | cons first rest => exact ⟨t, _, front, first, rest⟩

/-- Two runs with the same labels, side by side. -/
theorem Run.prod {τ : Type} {step' : τ → α → τ → Prop} {s u : σ} {t v : τ} {as : List α}
    (left : Run step s as u) (right : Run step' t as v) :
    Run (fun x a y => step x.1 a y.1 ∧ step' x.2 a y.2) (s, t) as (u, v) := by
  induction left generalizing t with
  | nil =>
    cases right
    exact .nil _
  | cons first _ ih =>
    cases right with
    | cons first' rest' => exact .cons ⟨first, first'⟩ (ih rest')

/-- What holds at the start, and is kept by every step, holds at the end of a run. -/
theorem Run.invariant {s u : σ} {as : List α} (holds : List α → σ → Prop) (start : holds [] s)
    (keeps : ∀ past t a t', holds past t → step t a t' → holds (past ++ [a]) t')
    (run : Run step s as u) : holds as u := by
  suffices along : ∀ {t v bs}, Run step t bs v → ∀ past, holds past t → holds (past ++ bs) v from
    along run [] start
  intro t v bs run
  induction run with
  | nil =>
    intro past now
    rwa [List.append_nil]
  | cons first _ ih =>
    intro past now
    have next := ih (past ++ [_]) (keeps past _ _ _ now first)
    rwa [List.append_assoc] at next

/-- `Run.invariant` for steps whose labels all satisfy a condition. -/
theorem Run.invariant_of_forall {s u : σ} {as : List α} (good : α → Prop)
    (holds : List α → σ → Prop) (start : holds [] s)
    (keeps : ∀ past t a t', holds past t → good a → step t a t' → holds (past ++ [a]) t')
    (run : Run step s as u) (all : ∀ a ∈ as, good a) : holds as u := by
  refine Run.invariant (fun past t => (∀ a ∈ past, good a) → holds past t) (fun _ => start) ?_ run all
  intro past t a t' now first allPast
  refine keeps past t a t' (now fun b isIn => allPast b (List.mem_append_left _ isIn)) ?_ first
  exact allPast a (List.mem_append_right _ (List.mem_singleton.mpr rfl))

/-! ## Folds that may fail -/

section Fold

variable {f : σ → α → Option σ} {as : List α} {s t : σ}

/-- A fold that has a result relates its ends as its steps do. -/
theorem foldlM_related (related : σ → σ → Prop) (refl : ∀ s, related s s)
    (trans : ∀ s t u, related s t → related t u → related s u)
    (step : ∀ s a t, a ∈ as → f s a = some t → related s t) (run : as.foldlM f s = some t) :
    related s t := by
  induction as generalizing s with
  | nil =>
    cases run
    exact refl _
  | cons a rest ih =>
    rw [List.foldlM_cons, Option.bind_eq_bind, Option.bind_eq_some_iff] at run
    obtain ⟨u, first, run⟩ := run
    have later := ih (fun s b t isIn => step s b t (List.mem_cons_of_mem _ isIn)) run
    exact trans s u t (step s a u List.mem_cons_self first) later

/-- What the steps keep, a fold that has a result keeps. -/
theorem foldlM_invariant (holds : σ → Prop) (keeps : ∀ s a t, f s a = some t → holds s → holds t)
    (run : as.foldlM f s = some t) (start : holds s) : holds t :=
  foldlM_related (fun s t => holds s → holds t) (fun _ => id)
    (fun _ _ _ front back start => back (front start)) (fun s a t _ => keeps s a t) run start

end Fold

end Trace
