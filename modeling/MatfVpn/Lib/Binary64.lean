/-
# Double-precision floating-point numbers

The numbers of IEEE 754 binary64 by their values: NaN, the two infinities and the finite
values.  The two zeros are one value, which no comparison tells apart.  Comparisons with
NaN are false.  Operations compute the exact value and round it to nearest, ties to even.

* `le_finite` : finite numbers are compared as rational numbers;
* `round_nonneg` : rounding keeps the sign.
-/
import Mathlib.Data.Int.Log
import Mathlib.Data.Rat.Floor

/-- A binary64 number.  Statements about it hold for all rational numbers as finite values. -/
inductive Binary64 where
  | nan
  | infinity (negative : Bool)
  | finite (value : ℚ)
  deriving DecidableEq

namespace Binary64

/-! ## Rounding -/

/-- The nearest integer, and the even one of two. -/
def nearestEven (x : ℚ) : ℤ :=
  if x - ⌊x⌋ < 1 / 2 then ⌊x⌋
  else if 1 / 2 < x - ⌊x⌋ then ⌊x⌋ + 1
  else if ⌊x⌋ % 2 = 0 then ⌊x⌋
  else ⌊x⌋ + 1

/-- The exponent of the last of the 53 bits of a value; it is at least -1074. -/
def lastExponent (x : ℚ) : ℤ := max (Int.log 2 |x| - 52) (-1074)

/-- Round an exact value to a number. -/
def round (x : ℚ) : Binary64 :=
  let r : ℚ := nearestEven (x / 2 ^ lastExponent x) * 2 ^ lastExponent x
  if 2 ^ 1024 ≤ |r| then infinity (x < 0) else finite r

/-- **Rounding keeps the sign.** -/
theorem round_nonneg {x r : ℚ} (hx : 0 ≤ x) (h : round x = finite r) : 0 ≤ r := by
  have hpow : (0 : ℚ) < 2 ^ lastExponent x := zpow_pos (by norm_num) _
  have hfloor : 0 ≤ ⌊x / 2 ^ lastExponent x⌋ := Int.floor_nonneg.2 (div_nonneg hx hpow.le)
  have hnearest : 0 ≤ nearestEven (x / 2 ^ lastExponent x) := by
    unfold nearestEven
    split_ifs <;> omega
  unfold round at h
  simp only at h
  split at h
  · cases h
  · rw [← finite.inj h]
    exact mul_nonneg (by exact_mod_cast hnearest) hpow.le

/-! ## Comparisons and operations -/

/-- `x < y`. -/
def lt : Binary64 → Binary64 → Bool
  | nan, _ | _, nan => false
  | finite x, finite y => x < y
  | infinity negative, finite _ => negative
  | finite _, infinity negative => !negative
  | infinity negative, infinity negative' => negative && !negative'

/-- `x <= y`. -/
def le : Binary64 → Binary64 → Bool
  | nan, _ | _, nan => false
  | finite x, finite y => x ≤ y
  | infinity negative, finite _ => negative
  | finite _, infinity negative => !negative
  | infinity negative, infinity negative' => negative || !negative'

/-- `x + y`. -/
def add : Binary64 → Binary64 → Binary64
  | nan, _ | _, nan => nan
  | finite x, finite y => round (x + y)
  | infinity negative, finite _ | finite _, infinity negative => infinity negative
  | infinity negative, infinity negative' =>
      if negative = negative' then infinity negative else nan

/-- `-x`. -/
def neg : Binary64 → Binary64
  | nan => nan
  | infinity negative => infinity !negative
  | finite x => finite (-x)

/-- `x * y`. -/
def mul : Binary64 → Binary64 → Binary64
  | nan, _ | _, nan => nan
  | finite x, finite y => round (x * y)
  | infinity negative, finite x | finite x, infinity negative =>
      if x = 0 then nan else infinity (negative ^^ decide (x < 0))
  | infinity negative, infinity negative' => infinity (negative ^^ negative')

instance : Zero Binary64 := ⟨finite 0⟩
instance : Add Binary64 := ⟨add⟩
instance : Sub Binary64 := ⟨fun x y => add x (neg y)⟩
instance : Mul Binary64 := ⟨mul⟩
instance : LT Binary64 := ⟨fun x y => lt x y = true⟩
instance : LE Binary64 := ⟨fun x y => le x y = true⟩
instance : DecidableLT Binary64 := fun x y => inferInstanceAs (Decidable (lt x y = true))
instance : DecidableLE Binary64 := fun x y => inferInstanceAs (Decidable (le x y = true))

/-- The number is neither NaN nor infinite. -/
def isFinite : Binary64 → Bool
  | finite _ => true
  | _ => false

theorem le_finite (x y : ℚ) : finite x ≤ finite y ↔ x ≤ y := by
  show decide (x ≤ y) = true ↔ _
  rw [decide_eq_true_eq]

end Binary64
