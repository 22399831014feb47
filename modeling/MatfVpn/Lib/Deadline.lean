/-
# Deadlines

A loop waits until the nearer of its deadlines, at most for as long as its caller allows, and
moves a deadline that has come an interval ahead.  Times form an ordered group.

* `add_remaining` : waiting for what is left until a deadline ends at the deadline, or at once;
* `capped_eq_zero` : a wait of nothing, of a caller that allows more, means that a deadline came;
* `Armed` : a deadline that lies ahead, by at most the interval.
-/
import Mathlib.Algebra.Order.Group.Defs
import Mathlib.Algebra.Order.Group.Unbundled.Basic
import Mathlib.Algebra.Order.Group.MinMax
import Mathlib.Tactic.Abel

namespace Deadline

variable {τ : Type} [AddCommGroup τ] [LinearOrder τ]

/-! ## Waiting -/

/-- What is left until the deadline, if it is still ahead. -/
def remaining (now deadline : τ) : τ := max 0 (deadline - now)

/-- What is left until the nearer of two deadlines. -/
def wait (now first second : τ) : τ := min (remaining now first) (remaining now second)

/-- A wait that the caller may have limited. -/
def capped (limit : Option τ) (duration : τ) : τ :=
  match limit with
  | none => duration
  | some limit => min limit duration

section waiting

variable {now deadline first second duration : τ} {limit : Option τ}

theorem remaining_nonneg (now deadline : τ) : 0 ≤ remaining now deadline := le_max_left _ _

theorem wait_nonneg (now first second : τ) : 0 ≤ wait now first second :=
  le_min (remaining_nonneg now first) (remaining_nonneg now second)

omit [AddCommGroup τ] in
theorem capped_le (limit : Option τ) (duration : τ) : capped limit duration ≤ duration := by
  cases limit with
  | none => exact le_refl duration
  | some limit => exact min_le_right limit duration

omit [AddCommGroup τ] in
theorem capped_le_limit {bound : τ} (h : bound ∈ limit) : capped limit duration ≤ bound := by
  obtain rfl := Option.mem_def.1 h
  exact min_le_left bound duration

theorem capped_nonneg (hlimit : ∀ bound ∈ limit, 0 ≤ bound) (h : 0 ≤ duration) :
    0 ≤ capped limit duration := by
  cases limit with
  | none => exact h
  | some bound => exact le_min (hlimit bound rfl) h

/-- A caller that allows more than nothing is not the reason for a wait of nothing. -/
theorem capped_eq_zero (hlimit : limit ≠ some 0) (h : capped limit duration = 0) :
    duration = 0 := by
  cases limit with
  | none => exact h
  | some bound =>
      rcases min_choice bound duration with hmin | hmin
      · exact absurd (congrArg some (hmin.symm.trans h)) hlimit
      · exact hmin.symm.trans h

variable [IsOrderedAddMonoid τ]

theorem remaining_eq_zero_iff : remaining now deadline = 0 ↔ deadline ≤ now := by
  rw [remaining, max_eq_left_iff, sub_nonpos]

/-- **Waiting for what is left** ends at the deadline, or at once. -/
theorem add_remaining (now deadline : τ) : now + remaining now deadline = max now deadline := by
  rw [remaining, ← max_add_add_left, add_zero, add_sub_cancel]

/-- A wait ends by the first deadline, unless it has passed. -/
theorem add_le_max_left (h : duration ≤ wait now first second) :
    now + duration ≤ max now first := by
  rw [← add_remaining]
  exact add_le_add_right (h.trans (min_le_left _ _)) now

/-- A wait ends by the second deadline, unless it has passed. -/
theorem add_le_max_right (h : duration ≤ wait now first second) :
    now + duration ≤ max now second := by
  rw [← add_remaining]
  exact add_le_add_right (h.trans (min_le_right _ _)) now

/-- **No wait** means that one of the deadlines has come. -/
theorem le_now_of_wait_eq_zero (h : wait now first second = 0) : first ≤ now ∨ second ≤ now := by
  rw [← remaining_eq_zero_iff, ← remaining_eq_zero_iff]
  rcases min_choice (remaining now first) (remaining now second) with hmin | hmin
  · exact Or.inl (hmin.symm.trans h)
  · exact Or.inr (hmin.symm.trans h)

end waiting

/-! ## Moving a deadline -/

section moving

variable [IsOrderedAddMonoid τ] {interval next now later : τ}

/-- The deadline is ahead, by at most the interval. -/
structure Armed (interval next now : τ) : Prop where
  ahead : now < next
  within : next ≤ now + interval

/-- A deadline that is an interval ahead. -/
theorem armed_add (hinterval : 0 < interval) (now : τ) :
    Armed interval (now + interval) now :=
  ⟨lt_add_of_pos_right now hinterval, le_refl _⟩

/-- Time passes. -/
theorem within_later (h : next ≤ now + interval) (hnow : now ≤ later) : next ≤ later + interval :=
  h.trans (add_le_add_left hnow interval)

end moving

end Deadline
