import Libmdr.Lib.Transducer
import Mathlib.Data.List.Induction

/-!
# Delimited bodies in a stream

A stream in which bodies stand between a start and a stop symbol. The scanner
below takes the symbols one at a time: a start symbol opens a body and drops an
unfinished one, a stop symbol closes the open body, and a body that reaches the
capacity without a stop symbol is dropped. It never looks at a symbol twice, so
what it finds depends on the stream alone.
-/

namespace Delimited
set_option autoImplicit false

/-- The two delimiters and the capacity of the scanner. -/
structure Format (α : Type) where
  start : α
  stop : α
  capacity : Nat
  distinct : start ≠ stop
  room : 0 < capacity

variable {α : Type}

/-- A list with no delimiter in it. -/
def Plain (fmt : Format α) (body : List α) : Prop := fmt.start ∉ body ∧ fmt.stop ∉ body

theorem Plain.append {fmt : Format α} {xs ys : List α} (left : Plain fmt xs)
    (right : Plain fmt ys) : Plain fmt (xs ++ ys) := by
  simp only [Plain, List.mem_append] at *
  tauto

theorem Plain.of_append {fmt : Format α} {xs ys : List α} (plain : Plain fmt (xs ++ ys)) :
    Plain fmt xs ∧ Plain fmt ys := by
  simp only [Plain, List.mem_append] at *
  tauto

variable [DecidableEq α] (fmt : Format α)

instance (body : List α) : Decidable (Plain fmt body) :=
  inferInstanceAs (Decidable (fmt.start ∉ body ∧ fmt.stop ∉ body))

/-- One symbol. The state is the open body, if there is one. -/
def step : Option (List α) → α → Option (List α) × List (List α)
  | none, a => if a = fmt.start then (some [], []) else (none, [])
  | some body, a =>
    if a = fmt.start then (some [], [])
    else if a = fmt.stop then (none, [body])
    else if fmt.capacity ≤ body.length + 1 then (none, [])
    else (some (body ++ [a]), [])

/-- The scanner's state after a stream. -/
abbrev after (s : Option (List α)) (stream : List α) : Option (List α) :=
  Transducer.after (step fmt) s stream

/-- The bodies found in a stream. -/
abbrev bodies (s : Option (List α)) (stream : List α) : List (List α) :=
  Transducer.outputs (step fmt) s stream

variable {fmt}

theorem bodies_append (s : Option (List α)) (xs ys : List α) :
    bodies fmt s (xs ++ ys) = bodies fmt s xs ++ bodies fmt (after fmt s xs) ys :=
  Transducer.outputs_append _ _ _ _

@[simp] theorem step_start (s : Option (List α)) : step fmt s fmt.start = (some [], []) := by
  cases s <;> simp [step]

@[simp] theorem step_some_stop (body : List α) :
    step fmt (some body) fmt.stop = (none, [body]) := by
  simp [step, fmt.distinct.symm]

theorem step_none_of_ne {a : α} (other : a ≠ fmt.start) : step fmt none a = (none, []) := by
  simp [step, other]

theorem step_some_of_ne {a : α} (body : List α) (notStart : a ≠ fmt.start)
    (notStop : a ≠ fmt.stop) :
    step fmt (some body) a =
      if fmt.capacity ≤ body.length + 1 then (none, []) else (some (body ++ [a]), []) := by
  simp [step, notStart, notStop]

/-- Outside a body everything up to the next start symbol is passed over. -/
theorem none_of_no_start {stream : List α} (absent : fmt.start ∉ stream) :
    after fmt none stream = none ∧ bodies fmt none stream = [] := by
  induction stream with
  | nil => exact ⟨rfl, rfl⟩
  | cons a rest ih =>
    simp only [List.mem_cons, not_or] at absent
    have stays := step_none_of_ne (Ne.symm absent.1)
    simp [stays, ih absent.2]

/-- Inside a body plain symbols are collected while they fit. -/
theorem some_of_plain (body : List α) {plain : List α} (isPlain : Plain fmt plain)
    (fits : body.length + plain.length < fmt.capacity) :
    after fmt (some body) plain = some (body ++ plain) ∧ bodies fmt (some body) plain = [] := by
  induction plain generalizing body with
  | nil => simp
  | cons a rest ih =>
    simp only [Plain, List.mem_cons, not_or, List.length_cons] at isPlain fits
    have taken : step fmt (some body) a = (some (body ++ [a]), []) := by
      rw [step_some_of_ne body (Ne.symm isPlain.1.1) (Ne.symm isPlain.2.1), if_neg (by omega)]
    have tail := ih (body ++ [a]) ⟨isPlain.1.2, isPlain.2.2⟩ (by simp; omega)
    simp [taken, tail]

/-- Plain symbols that fill the scanner up are dropped. -/
theorem none_of_full {plain : List α} (isPlain : Plain fmt plain)
    (full : plain.length = fmt.capacity) :
    after fmt (some []) plain = none ∧ bodies fmt (some []) plain = [] := by
  have room := fmt.room
  rcases List.eq_nil_or_concat' plain with rfl | ⟨front, a, rfl⟩
  · simp only [List.length_nil] at full
    omega
  · obtain ⟨frontPlain, lastPlain⟩ := Plain.of_append isPlain
    simp only [List.length_append, List.length_singleton] at full
    have collected := some_of_plain [] frontPlain (by simp; omega)
    have last : step fmt (some front) a = (none, []) := by
      simp only [Plain, List.mem_singleton] at lastPlain
      rw [step_some_of_ne front (Ne.symm lastPlain.1) (Ne.symm lastPlain.2), if_pos (by omega)]
    simp [Transducer.after_append, Transducer.outputs_append, collected, last]

/-- A start symbol opens an empty body whatever came before it. -/
theorem after_start (s : Option (List α)) (before : List α) :
    after fmt s (before ++ [fmt.start]) = some [] := by
  simp [Transducer.after_append]

theorem bodies_start (s : Option (List α)) (before : List α) :
    bodies fmt s (before ++ [fmt.start]) = bodies fmt s before := by
  simp [Transducer.outputs_append]

/-- What stands between a start and a stop symbol, and fits, is found. -/
theorem bodies_delimited (s : Option (List α)) (before : List α) {body : List α}
    (isPlain : Plain fmt body) (fits : body.length < fmt.capacity) :
    after fmt s (before ++ fmt.start :: body ++ [fmt.stop]) = none ∧
      bodies fmt s (before ++ fmt.start :: body ++ [fmt.stop]) = bodies fmt s before ++ [body] := by
  have collected := some_of_plain [] isPlain (by simpa using fits)
  simp [Transducer.after_append, Transducer.outputs_append, collected]

/-- A delimited body of a stream is among those found, whatever follows it. -/
theorem mem_bodies_of_delimited (s : Option (List α)) (before behind : List α) {body : List α}
    (isPlain : Plain fmt body) (fits : body.length < fmt.capacity) :
    body ∈ bodies fmt s (before ++ fmt.start :: body ++ fmt.stop :: behind) := by
  have found := (bodies_delimited s before isPlain fits).2
  have split : before ++ fmt.start :: body ++ fmt.stop :: behind =
      (before ++ fmt.start :: body ++ [fmt.stop]) ++ behind := by simp
  rw [split, bodies_append, found]
  simp

/-- Without the open body the scanner comes to the same state, or stays outside any body. -/
theorem after_none_or (s : Option (List α)) (stream : List α) :
    after fmt none stream = after fmt s stream ∨ after fmt none stream = none := by
  induction stream generalizing s with
  | nil => exact .inr rfl
  | cons a rest ih =>
    simp only [after, Transducer.after_cons]
    by_cases isStart : a = fmt.start
    · subst isStart
      rw [step_start, step_start]
      exact .inl rfl
    · rw [step_none_of_ne isStart]
      exact ih _

/-- What is found without the open body is found with it. -/
theorem bodies_none_sublist (s : Option (List α)) (stream : List α) :
    (bodies fmt none stream).Sublist (bodies fmt s stream) := by
  induction stream generalizing s with
  | nil => exact .slnil
  | cons a rest ih =>
    cases s with
    | none => exact .refl _
    | some body =>
      simp only [bodies, Transducer.outputs_cons]
      by_cases isStart : a = fmt.start
      · subst isStart
        rw [step_start, step_start]
      · rw [step_none_of_ne isStart]
        by_cases isStop : a = fmt.stop
        · subst isStop
          rw [step_some_stop]
          exact List.sublist_append_right _ _
        · rw [step_some_of_ne body isStart isStop]
          split <;> exact ih _

/-- The open body is the plain end of the stream since the last start symbol. -/
theorem after_eq_some {stream body : List α} (opened : after fmt none stream = some body) :
    ∃ before, stream = before ++ fmt.start :: body ∧ Plain fmt body ∧ body.length < fmt.capacity := by
  have room := fmt.room
  induction stream using List.reverseRecOn generalizing body with
  | nil => simp at opened
  | append_singleton front a ih =>
    simp only [after, Transducer.after_append, Transducer.after_cons, Transducer.after_nil] at opened
    by_cases isStart : a = fmt.start
    · subst isStart
      simp only [step_start, Option.some.injEq] at opened
      subst opened
      exact ⟨front, by simp, by simp [Plain], by simpa using room⟩
    · match state : Transducer.after (step fmt) none front with
      | none => simp [state, step, isStart] at opened
      | some collected =>
        obtain ⟨before, rfl, isPlain, -⟩ := ih state
        simp only [state, step, isStart, if_false] at opened
        split at opened
        · cases opened
        · rename_i notStop
          split at opened
          · cases opened
          · simp only [Option.some.injEq] at opened
            subst opened
            refine ⟨before, by simp, isPlain.append ?_, by simp; omega⟩
            simp [Plain, Ne.symm isStart, Ne.symm notStop]

/-- Every body found stands between a start and a stop symbol of the stream. -/
theorem mem_bodies {stream body : List α} (found : body ∈ bodies fmt none stream) :
    ∃ before behind, stream = before ++ fmt.start :: body ++ fmt.stop :: behind ∧
      Plain fmt body ∧ body.length < fmt.capacity := by
  induction stream using List.reverseRecOn with
  | nil => simp at found
  | append_singleton front a ih =>
    simp only [bodies, Transducer.outputs_append, Transducer.outputs_cons, Transducer.outputs_nil,
      List.append_nil, List.mem_append] at found
    rcases found with earlier | last
    · obtain ⟨before, behind, rfl, rest⟩ := ih earlier
      exact ⟨before, behind ++ [a], by simp, rest⟩
    · match state : Transducer.after (step fmt) none front with
      | none =>
        simp only [state, step] at last
        split at last <;> cases last
      | some collected =>
        obtain ⟨before, rfl, isPlain, fits⟩ := after_eq_some state
        simp only [state, step] at last
        split at last
        · cases last
        · split at last
          · rename_i isStop
            simp only [List.mem_singleton] at last
            subst last isStop
            exact ⟨before, [], by simp, isPlain, fits⟩
          · split at last <;> cases last

/-! ## Bodies that break off -/

/-- A body as it stands on the stream. -/
def delimit (fmt : Format α) (body : List α) : List α := fmt.start :: body ++ [fmt.stop]

/-- Of a delimited body that may break off, the body is found when all of it is there; what came
before it does not matter. -/
theorem bodies_of_prefix (s : Option (List α)) {body piece : List α} (isPlain : Plain fmt body)
    (fits : body.length < fmt.capacity) (start : piece <+: delimit fmt body) :
    bodies fmt s piece = if piece = delimit fmt body then [body] else [] := by
  split
  · rename_i whole
    have found := bodies_delimited s [] isPlain fits
    rw [List.nil_append] at found
    rw [whole, delimit, found.2]
    rfl
  · rename_i cut
    -- What is there is a start symbol and some of the body, or nothing.
    have inFront : piece <+: fmt.start :: body := by
      rcases List.prefix_concat_iff.mp start with whole | front
      · exact absurd whole cut
      · exact front
    cases piece with
    | nil => rfl
    | cons a rest =>
      obtain ⟨rfl, front⟩ := List.cons_prefix_cons.mp inFront
      obtain ⟨behind, rfl⟩ := front
      rw [List.length_append] at fits
      have collected := some_of_plain [] isPlain.of_append.1
        (by rw [List.length_nil, Nat.zero_add]; omega)
      rw [bodies, Transducer.outputs_cons, step_start]
      exact collected.2

end Delimited
