/-
# Linear interpolation between the elements of a list

`interpolate v x` is the value at `x` of the broken line through the points `(k, v k)`.

* `interpolate_mono` : a sequence that never falls gives a line that never falls;
* `interpolate_affine` : a straight line;
* `element` : a list as such a sequence, constant beyond its ends.
-/
import Mathlib

namespace Interpolation

/-! ## The line -/

section line

variable {α : Type} [Field α] [LinearOrder α] [FloorRing α]

/-- The line through the points of `v`, at `x`. -/
def interpolate (v : ℤ → α) (x : α) : α := v ⌊x⌋ * (1 - Int.fract x) + v ⌈x⌉ * Int.fract x

/-- The line from the point before. -/
theorem interpolate_eq (v : ℤ → α) (x : α) :
    interpolate v x = v ⌊x⌋ + (v ⌈x⌉ - v ⌊x⌋) * Int.fract x := by
  rw [interpolate]
  ring

variable [IsStrictOrderedRing α] {v : ℤ → α}

/-- The line goes through the points. -/
theorem interpolate_intCast (v : ℤ → α) (k : ℤ) : interpolate v (k : α) = v k := by
  rw [interpolate, Int.floor_intCast, Int.fract_intCast, sub_zero, mul_one, mul_zero, add_zero]

theorem floor_le_interpolate (hv : Monotone v) (x : α) : v ⌊x⌋ ≤ interpolate v x := by
  rw [interpolate_eq]
  have hrise : v ⌊x⌋ ≤ v ⌈x⌉ := hv (Int.floor_le_ceil x)
  exact le_add_of_nonneg_right (mul_nonneg (sub_nonneg.2 hrise) (Int.fract_nonneg x))

theorem interpolate_le_ceil (hv : Monotone v) (x : α) : interpolate v x ≤ v ⌈x⌉ := by
  rw [interpolate_eq]
  have hrise : v ⌊x⌋ ≤ v ⌈x⌉ := hv (Int.floor_le_ceil x)
  have hpart : (v ⌈x⌉ - v ⌊x⌋) * Int.fract x ≤ v ⌈x⌉ - v ⌊x⌋ :=
    mul_le_of_le_one_right (sub_nonneg.2 hrise) (Int.fract_lt_one x).le
  linarith

/-- **The line never falls** where its points do not. -/
theorem interpolate_mono (hv : Monotone v) : Monotone (interpolate v) := by
  intro x y hxy
  by_cases h : ⌈x⌉ ≤ ⌊y⌋
  · calc interpolate v x ≤ v ⌈x⌉ := interpolate_le_ceil hv x
      _ ≤ v ⌊y⌋ := hv h
      _ ≤ interpolate v y := floor_le_interpolate hv y
  -- Both lie between the same two points.
  have hfloor : ⌊y⌋ = ⌊x⌋ := by
    have hle := Int.floor_le_floor hxy
    have hceil := Int.ceil_le_floor_add_one x
    omega
  have hceil : ⌈y⌉ = ⌈x⌉ := by
    have hle := Int.ceil_le_ceil hxy
    have hceil := Int.ceil_le_floor_add_one y
    omega
  rw [interpolate_eq, interpolate_eq, hfloor, hceil]
  have hrise : v ⌊x⌋ ≤ v ⌈x⌉ := hv (Int.floor_le_ceil x)
  have hfract : Int.fract x ≤ Int.fract y := by
    rw [Int.fract, Int.fract, hfloor]
    exact sub_le_sub_right hxy _
  exact add_le_add_right (mul_le_mul_of_nonneg_left hfract (sub_nonneg.2 hrise)) _

/-- Halfway between two points. -/
theorem interpolate_half (v : ℤ → α) {x : α} {k : ℤ} (hx : x = k + 1 / 2) :
    interpolate v x = (v k + v (k + 1)) / 2 := by
  have hfloor : ⌊x⌋ = k := by
    rw [Int.floor_eq_iff, hx]
    constructor <;> linarith
  have hceil : ⌈x⌉ = k + 1 := by
    rw [Int.ceil_eq_iff, hx]
    push_cast
    constructor <;> linarith
  have hfract : Int.fract x = 1 / 2 := by
    rw [Int.fract, hfloor, hx]
    ring
  rw [interpolate, hfloor, hceil, hfract]
  ring

/-- A straight line, from its two points around `x`. -/
theorem interpolate_affine {x a b : α} (hfloor : v ⌊x⌋ = a + b * ⌊x⌋)
    (hceil : v ⌈x⌉ = a + b * ⌈x⌉) : interpolate v x = a + b * x := by
  rw [interpolate_eq, hfloor, hceil]
  have hx := Int.floor_add_fract x
  by_cases hinteger : Int.fract x = 0
  · rw [hinteger, add_zero] at hx
    rw [hinteger, mul_zero, add_zero, hx]
  · have hnext : (⌈x⌉ : α) = ⌊x⌋ + 1 := by
      rw [Int.ceil_eq_add_one_sub_fract hinteger, Int.fract]
      ring
    calc a + b * ⌊x⌋ + (a + b * ⌈x⌉ - (a + b * ⌊x⌋)) * Int.fract x
        = a + b * (⌊x⌋ + (⌈x⌉ - ⌊x⌋) * Int.fract x) := by ring
      _ = a + b * (⌊x⌋ + Int.fract x) := by rw [hnext, add_sub_cancel_left, one_mul]
      _ = a + b * x := by rw [hx]

end line

/-! ## Lists -/

section lists

variable {β : Type} [Zero β] {values : List β}

/-- The element of the index, or the one at the nearer end. -/
def element (values : List β) (k : ℤ) : β := values.getD (min k.toNat (values.length - 1)) 0

theorem element_natCast {k : ℕ} {x : β} (h : values[k]? = some x) :
    element values k = x := by
  have hk : k < values.length := (List.getElem?_eq_some_iff.1 h).1
  rw [element, Int.toNat_natCast, min_eq_left (by omega), List.getD_eq_getElem?_getD, h,
    Option.getD_some]

/-- **A sorted list** never falls. -/
theorem element_mono [Preorder β] (hsorted : values.Pairwise (· ≤ ·)) :
    Monotone (element values) := by
  intro k l hkl
  unfold element
  rcases Nat.eq_zero_or_pos values.length with hempty | hpos
  · rw [List.length_eq_zero_iff.1 hempty]
    exact le_rfl
  have hk : min k.toNat (values.length - 1) < values.length := by omega
  have hl : min l.toNat (values.length - 1) < values.length := by omega
  rw [List.getD_eq_getElem?_getD, List.getD_eq_getElem?_getD, List.getElem?_eq_getElem hk,
    List.getElem?_eq_getElem hl]
  exact hsorted.rel_get_of_le (a := ⟨_, hk⟩) (b := ⟨_, hl⟩)
    (min_le_min_right _ (Int.toNat_le_toNat hkl))

end lists

end Interpolation
