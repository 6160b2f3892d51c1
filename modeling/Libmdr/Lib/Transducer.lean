import Mathlib.Data.List.Basic

/-!
# Transducers

A machine that takes one input symbol at a time and answers each with a list of
outputs. Feeding it a stream piece by piece gives what feeding it the whole
stream does.
-/

namespace Transducer
set_option autoImplicit false

variable {σ α β : Type}

/-- The state and all outputs after the inputs, from a given state. -/
def run (step : σ → α → σ × List β) : σ → List α → σ × List β
  | s, [] => (s, [])
  | s, a :: rest =>
    let (s', now) := step s a
    let (s'', later) := run step s' rest
    (s'', now ++ later)

/-- The state after the inputs. -/
def after (step : σ → α → σ × List β) (s : σ) (inputs : List α) : σ := (run step s inputs).1

/-- The outputs given for the inputs. -/
def outputs (step : σ → α → σ × List β) (s : σ) (inputs : List α) : List β := (run step s inputs).2

variable (step : σ → α → σ × List β) (s : σ)

@[simp] theorem after_nil : after step s [] = s := rfl
@[simp] theorem outputs_nil : outputs step s [] = [] := rfl

@[simp] theorem after_cons (a : α) (rest : List α) :
    after step s (a :: rest) = after step (step s a).1 rest := rfl

@[simp] theorem outputs_cons (a : α) (rest : List α) :
    outputs step s (a :: rest) = (step s a).2 ++ outputs step (step s a).1 rest := rfl

/-- The state behind two inputs one after the other. The induction is on the first one. -/
theorem after_append (xs ys : List α) :
    after step s (xs ++ ys) = after step (after step s xs) ys := by
  induction xs generalizing s with
  | nil => rfl
  | cons x rest ih => simp only [List.cons_append, after_cons, ih]

/-- And their outputs. -/
theorem outputs_append (xs ys : List α) :
    outputs step s (xs ++ ys) = outputs step s xs ++ outputs step (after step s xs) ys := by
  induction xs generalizing s with
  | nil => rfl
  | cons x rest ih => simp only [List.cons_append, outputs_cons, after_cons, ih, List.append_assoc]

end Transducer
