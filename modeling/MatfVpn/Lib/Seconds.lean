/-
# Numbers of seconds

What a program computes with as a number of seconds: a time of an ordered group, an infinity, or
NaN.  Comparisons with NaN are false, and times are added without rounding.

* `finite_of_le_of_le` : what lies between two times is a time;
* `finite_add_sub` : a duration that is added to a time and taken from again.
-/
import Mathlib.Algebra.Order.Group.Defs

/-- A number of seconds. -/
inductive Seconds (τ : Type) where
  | nan
  | infinity (negative : Bool)
  | finite (time : τ)
  deriving DecidableEq

namespace Seconds

variable {τ : Type}

/-- The number is neither NaN nor infinite. -/
def isFinite : Seconds τ → Bool
  | finite _ => true
  | _ => false

theorem isFinite_iff {x : Seconds τ} : x.isFinite = true ↔ ∃ t, x = finite t := by
  cases x with
  | nan => exact ⟨nofun, nofun⟩
  | infinity negative => exact ⟨nofun, nofun⟩
  | finite t => exact ⟨fun _ => ⟨t, rfl⟩, fun _ => rfl⟩

/-! ## Comparisons -/

section order

variable [LinearOrder τ]

/-- `x < y`. -/
def lt : Seconds τ → Seconds τ → Bool
  | nan, _ | _, nan => false
  | finite x, finite y => x < y
  | infinity negative, finite _ => negative
  | finite _, infinity negative => !negative
  | infinity negative, infinity negative' => negative && !negative'

/-- `x <= y`. -/
def le : Seconds τ → Seconds τ → Bool
  | nan, _ | _, nan => false
  | finite x, finite y => x ≤ y
  | infinity negative, finite _ => negative
  | finite _, infinity negative => !negative
  | infinity negative, infinity negative' => negative || !negative'

instance : LT (Seconds τ) := ⟨fun x y => lt x y = true⟩
instance : LE (Seconds τ) := ⟨fun x y => le x y = true⟩
instance : DecidableLT (Seconds τ) := fun x y => inferInstanceAs (Decidable (lt x y = true))
instance : DecidableLE (Seconds τ) := fun x y => inferInstanceAs (Decidable (le x y = true))

variable {x y z : Seconds τ} {s t : τ}

@[simp] theorem finite_lt_finite : finite s < finite t ↔ s < t := decide_eq_true_iff

@[simp] theorem finite_le_finite : finite s ≤ finite t ↔ s ≤ t := decide_eq_true_iff

theorem le_refl_finite (t : τ) : finite t ≤ finite t := finite_le_finite.2 le_rfl

/-- **Comparisons follow on each other.** -/
theorem le_trans (hxy : x ≤ y) (hyz : y ≤ z) : x ≤ z := by
  change le x y = true at hxy
  change le y z = true at hyz
  show le x z = true
  rcases x with _ | (_ | _) | s <;> rcases y with _ | (_ | _) | t <;> rcases z with _ | (_ | _) | u
  case finite.finite.finite =>
    exact finite_le_finite.2 ((finite_le_finite.1 hxy).trans (finite_le_finite.1 hyz))
  all_goals first | rfl | exact Bool.noConfusion hxy | exact Bool.noConfusion hyz

/-- **What lies between two times** is a time. -/
theorem finite_of_le_of_le (hs : finite s ≤ x) (ht : x ≤ finite t) : ∃ u, x = finite u := by
  rcases x with _ | (_ | _) | u
  · cases hs
  · cases ht
  · cases hs
  · exact ⟨u, rfl⟩

end order

/-! ## Sums -/

section group

variable [AddCommGroup τ]

/-- `x + y`. -/
def add : Seconds τ → Seconds τ → Seconds τ
  | nan, _ | _, nan => nan
  | finite x, finite y => finite (x + y)
  | infinity negative, finite _ | finite _, infinity negative => infinity negative
  | infinity negative, infinity negative' =>
      if negative = negative' then infinity negative else nan

/-- `-x`. -/
def neg : Seconds τ → Seconds τ
  | nan => nan
  | infinity negative => infinity !negative
  | finite x => finite (-x)

instance : Zero (Seconds τ) := ⟨finite 0⟩
instance : Add (Seconds τ) := ⟨add⟩
instance : Sub (Seconds τ) := ⟨fun x y => add x (neg y)⟩

@[simp] theorem finite_add_finite (s t : τ) : finite s + finite t = finite (s + t) := rfl

@[simp] theorem finite_sub_finite (s t : τ) : finite s - finite t = finite (s - t) := by
  rw [sub_eq_add_neg]
  rfl

/-- **A duration from a time on**, less that time. -/
theorem finite_add_sub (t : τ) (x : Seconds τ) : finite t + x - finite t = x := by
  cases x with
  | nan => rfl
  | infinity negative => rfl
  | finite x => rw [finite_add_finite, finite_sub_finite, add_sub_cancel_left]

/-- No time has passed. -/
theorem sub_finite_sub (x : Seconds τ) (t : τ) : x - (finite t - finite t) = x := by
  rw [finite_sub_finite, sub_self]
  cases x with
  | nan => rfl
  | infinity negative => rfl
  | finite x => rw [finite_sub_finite, sub_zero]

/-- Two times are a time apart. -/
theorem isFinite_sub {x y : Seconds τ} (hx : x.isFinite = true) (hy : y.isFinite = true) :
    (x - y).isFinite = true := by
  obtain ⟨s, rfl⟩ := isFinite_iff.1 hx
  obtain ⟨t, rfl⟩ := isFinite_iff.1 hy
  rfl

/-- **A duration that is no time** does not pass. -/
theorem isFinite_of_le [LinearOrder τ] {x y : Seconds τ} (hx : ¬ x < 0) (hy : y.isFinite = true)
    (h : x ≤ y) : x.isFinite = true := by
  obtain ⟨t, rfl⟩ := isFinite_iff.1 hy
  rcases x with _ | (_ | _) | s
  · cases h
  · cases h
  · exact absurd rfl hx
  · rfl

end group

end Seconds
