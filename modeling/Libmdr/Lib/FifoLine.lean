import Mathlib.Data.List.Basic

/-!
# A FIFO line of marked messages

One party sends items one after the other over a line that keeps the order and
may lose messages; each message is marked, and what comes back at the end of the
line is the mark of an item and which item it was. Only the marks can be compared.
When no message of an earlier item carries the mark of the current item, a
message that carries it is one of the current item, and everything older has
left the line.
-/

namespace FifoLine
set_option autoImplicit false

variable {ι β : Type}

/-- Messages of earlier items with other marks, and behind them those of the
current item with its mark. -/
def Fits (current : Option ι) (mark : β) (line : List (ι × β)) : Prop :=
  ∃ old new, line = old ++ new ∧ (∀ message ∈ old, message.2 ≠ mark) ∧
    ∀ message ∈ new, current = some message.1 ∧ message.2 = mark

/-- Every message carries the mark. -/
def AllMarked (mark : β) (line : List (ι × β)) : Prop := ∀ message ∈ line, message.2 = mark

/-- No message carries the mark: any item can become the current one. -/
theorem Fits.of_unmarked {mark : β} {line : List (ι × β)} (current : Option ι)
    (unmarked : ∀ message ∈ line, message.2 ≠ mark) : Fits current mark line :=
  ⟨line, [], (List.append_nil line).symm, unmarked, fun _ isIn => by cases isIn⟩

/-- Without a current item no message carries the mark. -/
theorem Fits.start {mark : β} {line : List (ι × β)} (fits : Fits none mark line)
    (current : Option ι) : Fits current mark line := by
  obtain ⟨old, new, rfl, older, newer⟩ := fits
  cases new with
  | nil =>
    rw [List.append_nil]
    exact .of_unmarked current older
  | cons message rest => cases (newer message List.mem_cons_self).1

/-- Messages are lost. -/
theorem Fits.sublist {current : Option ι} {mark : β} {line line' : List (ι × β)}
    (fits : Fits current mark line) (lost : line'.Sublist line) : Fits current mark line' := by
  obtain ⟨old, new, rfl, older, newer⟩ := fits
  obtain ⟨old', new', rfl, lostOld, lostNew⟩ := List.sublist_append_iff.mp lost
  exact ⟨old', new', rfl, fun message isIn => older message (lostOld.subset isIn),
    fun message isIn => newer message (lostNew.subset isIn)⟩

theorem AllMarked.sublist {mark : β} {line line' : List (ι × β)} (marked : AllMarked mark line)
    (lost : line'.Sublist line) : AllMarked mark line' :=
  fun message isIn => marked message (lost.subset isIn)

/-- The current item is sent. -/
theorem Fits.send {item : ι} {mark : β} {line : List (ι × β)} (fits : Fits (some item) mark line) :
    Fits (some item) mark (line ++ [(item, mark)]) := by
  obtain ⟨old, new, rfl, older, newer⟩ := fits
  refine ⟨old, new ++ [(item, mark)], List.append_assoc _ _ _, older, ?_⟩
  intro message isIn
  rcases List.mem_append.mp isIn with earlier | last
  · exact newer message earlier
  · rw [List.mem_singleton.mp last]
    exact ⟨rfl, rfl⟩

theorem AllMarked.send {mark : β} {line : List (ι × β)} (marked : AllMarked mark line) (item : ι) :
    AllMarked mark (line ++ [(item, mark)]) := by
  intro message isIn
  rcases List.mem_append.mp isIn with earlier | last
  · exact marked message earlier
  · rw [List.mem_singleton.mp last]

/-- **A marked message at the end of the line is one of the current item**, and
nothing older is behind it. -/
theorem Fits.front {current : Option ι} {item : ι} {mark : β} {line : List (ι × β)}
    (fits : Fits current mark ((item, mark) :: line)) :
    current = some item ∧ AllMarked mark line := by
  obtain ⟨old, new, split, older, newer⟩ := fits
  cases old with
  | nil =>
    rw [List.nil_append] at split
    subst split
    exact ⟨(newer _ List.mem_cons_self).1, fun message isIn =>
      (newer message (List.mem_cons_of_mem _ isIn)).2⟩
  | cons message rest =>
    cases split
    exact absurd rfl (older _ List.mem_cons_self)

/-- The next item can take any mark but the one that every message carries. -/
theorem AllMarked.unmarked {mark mark' : β} {line : List (ι × β)} (marked : AllMarked mark line)
    (other : mark ≠ mark') : ∀ message ∈ line, message.2 ≠ mark' := by
  intro message isIn
  rw [marked message isIn]
  exact other

end FifoLine
