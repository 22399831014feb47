/-
# Holm's adjustment in exact arithmetic

`holm_adjust` goes through the p-values in the order of their size and keeps a running maximum.

* `holmAdjust_le_iff` : an adjusted p-value, without the order;
* `holmAdjust_correct` : the formula, and what follows from it.
-/
import MatfVpn.FinalAnalysis
import MatfVpn.Lib.StepDown
import Mathlib.Data.Finset.Max
import Mathlib.Data.List.OfFn
import Mathlib.GroupTheory.Perm.Basic
import Mathlib.Order.Bounds.Basic
import Mathlib.Data.List.FinRange

namespace MatfVpn

open StepDown

variable {sqrt : ℚ → ℚ} {pValues other : List ℚ}

/-! ## The loop -/

theorem exact_min (sqrt : ℚ → ℚ) (x y : ℚ) : (Arithmetic.exact sqrt).min x y = min x y := by
  show (if decide (y < x) = true then y else x) = min x y
  by_cases h : y < x
  · rw [if_pos (decide_eq_true h), min_eq_right h.le]
  · rw [if_neg (by rwa [decide_eq_true_eq]), min_eq_left (not_lt.1 h)]

theorem exact_max (sqrt : ℚ → ℚ) (x y : ℚ) : (Arithmetic.exact sqrt).max x y = max x y := by
  show (if decide (x < y) = true then y else x) = max x y
  by_cases h : x < y
  · rw [if_pos (decide_eq_true h), max_eq_right h.le]
  · rw [if_neg (by rwa [decide_eq_true_eq]), max_eq_left (not_lt.1 h)]

/-- The p-value of the index. -/
def pValueAt (pValues : List ℚ) (index : ℕ) : ℚ := pValues.getD index 0

/-- An index that the loop does not meet. -/
theorem holmLoop_of_not_mem {count rank i : ℕ} {running : ℚ} {order : List ℕ} {adjusted : List ℚ}
    (h : i ∉ order) :
    (holmLoop (.exact sqrt) pValues count rank running order adjusted)[i]? = adjusted[i]? := by
  induction order generalizing rank running adjusted with
  | nil => rfl
  | cons j order ih =>
    rw [List.mem_cons, not_or] at h
    rw [holmLoop, ih h.2, List.getElem?_set_ne (Ne.symm h.1)]

/-- **The loop** sets the p-value of every index to its level. -/
theorem holmLoop_getElem? {count rank i r : ℕ} {running : ℚ} {order : List ℕ}
    {adjusted : List ℚ} (hnodup : order.Nodup) (hi : order[r]? = some i)
    (hlt : i < adjusted.length) :
    (holmLoop (.exact sqrt) pValues count rank running order adjusted)[i]?
      = (levels count rank running (order.map (pValueAt pValues)))[r]? := by
  induction order generalizing rank running adjusted r with
  | nil => cases hi
  | cons j order ih =>
    obtain ⟨hj, hnodup⟩ := List.nodup_cons.1 hnodup
    rw [holmLoop, List.map_cons, levels, exact_min, exact_max]
    cases r with
    | zero =>
      obtain rfl := Option.some.inj hi
      rw [holmLoop_of_not_mem hj, List.getElem?_cons_zero, List.getElem?_set_self hlt]
      rfl
    | succ r =>
      rw [List.getElem?_cons_succ] at hi ⊢
      exact ih hnodup hi (by rwa [List.length_set])

/-! ## The order -/

theorem holmOrder_perm (sqrt : ℚ → ℚ) (pValues : List ℚ) :
    (holmOrder (.exact sqrt) pValues).Perm (List.range pValues.length) :=
  Arithmetic.sortedBy_perm _ _ _

theorem holmOrder_sorted (sqrt : ℚ → ℚ) (pValues : List ℚ) :
    (holmOrder (.exact sqrt) pValues).Pairwise fun i j =>
      pValueAt pValues i ≤ pValueAt pValues j :=
  Arithmetic.sortedBy_pairwise sqrt (pValueAt pValues) (List.range pValues.length)

/-- The p-values in their order. -/
theorem map_pValueAt_range (pValues : List ℚ) :
    (List.range pValues.length).map (pValueAt pValues) = pValues := by
  apply List.ext_getElem?
  intro i
  rw [List.getElem?_map]
  by_cases hi : i < pValues.length
  · rw [List.getElem?_range hi, List.getElem?_eq_getElem hi, Option.map_some, pValueAt,
      List.getD_eq_getElem?_getD, List.getElem?_eq_getElem hi, Option.getD_some]
  · rw [List.getElem?_eq_none (by rwa [List.length_range, ← not_lt]),
      List.getElem?_eq_none (not_lt.1 hi)]
    rfl

theorem length_holmLoop {τ : Type} (A : Arithmetic τ) (pValues : List τ) (count rank : ℕ)
    (running : τ) (order : List ℕ) (adjusted : List τ) :
    (holmLoop A pValues count rank running order adjusted).length = adjusted.length := by
  induction order generalizing rank running adjusted with
  | nil => rfl
  | cons j order ih => rw [holmLoop, ih, List.length_set]

theorem length_holmAdjust {τ : Type} (A : Arithmetic τ) (pValues : List τ) :
    (holmAdjust A pValues).length = pValues.length := by
  rw [holmAdjust, length_holmLoop, List.length_replicate]

/-! ## Adjusted p-values -/

/-- The loop in the order of `holm_adjust`. -/
theorem holmAdjust_eq_level (sqrt : ℚ → ℚ) {i : ℕ} (hi : i < pValues.length) :
    ∃ r : ℕ, (holmOrder (.exact sqrt) pValues)[r]? = some i ∧
      (holmAdjust (.exact sqrt) pValues)[i]?
        = (levels pValues.length 0 0
            ((holmOrder (.exact sqrt) pValues).map (pValueAt pValues)))[r]? := by
  have hmem : i ∈ holmOrder (.exact sqrt) pValues := by
    rw [(holmOrder_perm sqrt pValues).mem_iff, List.mem_range]
    exact hi
  obtain ⟨r, hr⟩ := List.mem_iff_getElem?.1 hmem
  refine ⟨r, hr, holmLoop_getElem? ?_ hr (by rwa [List.length_replicate])⟩
  rw [(holmOrder_perm sqrt pValues).nodup_iff]
  exact List.nodup_range

section orders

variable {order : List ℕ} (hperm : order.Perm (List.range pValues.length))
  (hsorted : order.Pairwise fun i j => pValueAt pValues i ≤ pValueAt pValues j)

include hperm

theorem map_order_perm : (order.map (pValueAt pValues)).Perm pValues := by
  have hmap := hperm.map (pValueAt pValues)
  rwa [map_pValueAt_range] at hmap

include hsorted

/-- The level of an index in any order of the indices by their p-values. -/
theorem level_le_iff (hnonneg : ∀ p ∈ pValues, 0 ≤ p) {i r : ℕ} {x level a : ℚ}
    (hr : order[r]? = some i) (hx : pValues[i]? = some x)
    (hlevel : (levels pValues.length 0 0 (order.map (pValueAt pValues)))[r]? = some level) :
    level ≤ a ↔ 0 ≤ a ∧ (1 ≤ a ∨ ∀ y ∈ pValues, y ≤ x →
      ((pValues.countP fun z => decide (y ≤ z) : ℕ) : ℚ) * y ≤ a) := by
  have hmap := map_order_perm hperm
  have hrx : (order.map (pValueAt pValues))[r]? = some x := by
    rw [List.getElem?_map, hr, Option.map_some, pValueAt, List.getD_eq_getElem?_getD, hx,
      Option.getD_some]
  rw [← hmap.length_eq] at hlevel
  rw [levels_le_iff_count (List.pairwise_map.2 hsorted)
    (fun p hp => hnonneg p (hmap.mem_iff.1 hp)) hrx hlevel]
  simp only [hmap.mem_iff, hmap.countP_eq]

end orders

/-- **An adjusted p-value**, without the order. -/
theorem holmAdjust_le_iff (hnonneg : ∀ p ∈ pValues, 0 ≤ p) {i : ℕ} {x level a : ℚ}
    (hx : pValues[i]? = some x) (hlevel : (holmAdjust (.exact sqrt) pValues)[i]? = some level) :
    level ≤ a ↔ 0 ≤ a ∧ (1 ≤ a ∨ ∀ y ∈ pValues, y ≤ x →
      ((pValues.countP fun z => decide (y ≤ z) : ℕ) : ℚ) * y ≤ a) := by
  obtain ⟨r, hr, hlevels⟩ := holmAdjust_eq_level sqrt (List.getElem?_eq_some_iff.1 hx).1
  rw [hlevels] at hlevel
  exact level_le_iff (holmOrder_perm sqrt pValues) (holmOrder_sorted sqrt pValues) hnonneg hr hx
    hlevel

/-- The adjusted p-value depends on the p-value and on the p-values without their order. -/
theorem holmAdjust_eq_of_perm (hperm : other.Perm pValues) (hnonneg : ∀ p ∈ pValues, 0 ≤ p)
    {i j : ℕ} {x : ℚ} (hi : other[i]? = some x) (hj : pValues[j]? = some x) :
    (holmAdjust (.exact sqrt) other)[i]? = (holmAdjust (.exact sqrt) pValues)[j]? := by
  have hi' : i < (holmAdjust (.exact sqrt) other).length := by
    rw [length_holmAdjust]
    exact (List.getElem?_eq_some_iff.1 hi).1
  have hj' : j < (holmAdjust (.exact sqrt) pValues).length := by
    rw [length_holmAdjust]
    exact (List.getElem?_eq_some_iff.1 hj).1
  rw [List.getElem?_eq_getElem hi', List.getElem?_eq_getElem hj', Option.some.injEq]
  apply eq_of_forall_ge_iff
  intro a
  rw [holmAdjust_le_iff (fun p hp => hnonneg p (hperm.mem_iff.1 hp)) hi
    (List.getElem?_eq_getElem hi'), holmAdjust_le_iff hnonneg hj (List.getElem?_eq_getElem hj')]
  simp only [hperm.mem_iff, hperm.countP_eq]

/-! ## Holm's adjustment -/

/-- The products of the p-values up to `x`, each with the number of p-values not below it. -/
def holmProducts (pValues : List ℚ) (x : ℚ) : Set ℚ :=
  {v | ∃ p ∈ pValues, p ≤ x ∧ v = ((pValues.countP fun q => decide (p ≤ q) : ℕ) : ℚ) * p}

/-- The products have a greatest one. -/
theorem exists_isGreatest_holmProducts {x : ℚ} (hx : x ∈ pValues) :
    ∃ m, IsGreatest (holmProducts pValues x) m := by
  obtain ⟨p, hp, hmax⟩ := Finset.exists_max_image (pValues.toFinset.filter fun p => p ≤ x)
    (fun p => ((pValues.countP fun q => decide (p ≤ q) : ℕ) : ℚ) * p)
    ⟨x, by rw [Finset.mem_filter, List.mem_toFinset]; exact ⟨hx, le_rfl⟩⟩
  rw [Finset.mem_filter, List.mem_toFinset] at hp
  refine ⟨_, ⟨p, hp.1, hp.2, rfl⟩, ?_⟩
  rintro v ⟨q, hq, hqx, rfl⟩
  apply hmax
  rw [Finset.mem_filter, List.mem_toFinset]
  exact ⟨hq, hqx⟩

/-- **The formula** of an adjusted p-value. -/
theorem holmAdjust_eq_min (hnonneg : ∀ p ∈ pValues, 0 ≤ p) {i : ℕ} {x level m : ℚ}
    (hx : pValues[i]? = some x) (hlevel : (holmAdjust (.exact sqrt) pValues)[i]? = some level)
    (hm : IsGreatest (holmProducts pValues x) m) : level = min 1 m := by
  apply eq_of_forall_ge_iff
  intro a
  rw [holmAdjust_le_iff hnonneg hx hlevel, min_le_iff]
  obtain ⟨⟨p, hp, hpx, hmp⟩, hupper⟩ := hm
  have hm0 : 0 ≤ m := by
    rw [hmp]
    exact mul_nonneg (Nat.cast_nonneg _) (hnonneg p hp)
  constructor
  · rintro ⟨-, hone | hall⟩
    · exact Or.inl hone
    · exact Or.inr (hmp ▸ hall p hp hpx)
  · rintro (hone | hle)
    · exact ⟨zero_le_one.trans hone, Or.inl hone⟩
    · exact ⟨hm0.trans hle, Or.inr fun y hy hyx => (hupper ⟨y, hy, hyx, rfl⟩).trans hle⟩

/-- **Holm's procedure** rejects the hypotheses with small adjusted p-values, whichever way ties
are broken. -/
theorem mem_rejections_iff_le (hnonneg : ∀ p ∈ pValues, 0 ≤ p) {alpha : ℚ} (halpha : alpha < 1)
    {order : List ℕ} (hperm : order.Perm (List.range pValues.length))
    (hsorted : order.Pairwise fun i j => pValueAt pValues i ≤ pValueAt pValues j)
    {i : ℕ} {level : ℚ} (hlevel : (holmAdjust (.exact sqrt) pValues)[i]? = some level) :
    i ∈ rejections (pValueAt pValues) alpha pValues.length 0 order ↔ level ≤ alpha := by
  have hi : i < pValues.length := by
    rw [← length_holmAdjust (.exact sqrt)]
    exact (List.getElem?_eq_some_iff.1 hlevel).1
  have hmem : i ∈ order := by
    rw [hperm.mem_iff, List.mem_range]
    exact hi
  obtain ⟨r, hr⟩ := List.mem_iff_getElem?.1 hmem
  have hlength : order.length = pValues.length := by
    rw [hperm.length_eq, List.length_range]
  have hrn : r < pValues.length := by
    rw [← hlength]
    exact (List.getElem?_eq_some_iff.1 hr).1
  -- the adjusted p-value is the level in this order too
  have hlevels : (levels pValues.length 0 0 (order.map (pValueAt pValues)))[r]? = some level := by
    have hr' : r < (levels pValues.length 0 0 (order.map (pValueAt pValues))).length := by
      rw [length_levels, List.length_map, hlength]
      exact hrn
    rw [List.getElem?_eq_getElem hr', Option.some.injEq]
    apply eq_of_forall_ge_iff
    intro a
    rw [level_le_iff hperm hsorted hnonneg hr (List.getElem?_eq_getElem hi)
      (List.getElem?_eq_getElem hr'),
      holmAdjust_le_iff hnonneg (List.getElem?_eq_getElem hi) hlevel]
  have hnodup : order.Nodup := by
    rw [hperm.nodup_iff]
    exact List.nodup_range
  rw [mem_rejections_iff hnodup hr, levels_le_iff_rank hlevels]
  have hcount : ∀ s ≤ r, (0 : ℚ) < ((pValues.length - (0 + s) : ℕ) : ℚ) := by
    intro s hs
    rw [Nat.cast_pos]
    omega
  constructor
  · intro hall
    refine ⟨?_, fun s hs p hp => Or.inr ?_⟩
    · have hfirst : 0 < order.length := by omega
      have hp := hall 0 (Nat.zero_le r) _ (List.getElem?_eq_getElem hfirst)
      rw [le_div_iff₀ (hcount 0 (Nat.zero_le r))] at hp
      refine le_trans (mul_nonneg ?_ (Nat.cast_nonneg _)) hp
      refine hnonneg _ ((map_order_perm hperm).mem_iff.1 ?_)
      exact List.mem_map_of_mem (List.getElem_mem hfirst)
    · rw [List.getElem?_map] at hp
      obtain ⟨j, hj, rfl⟩ := Option.map_eq_some_iff.1 hp
      have hle := hall s hs j hj
      rwa [le_div_iff₀ (hcount s hs), mul_comm] at hle
  · rintro ⟨-, hall⟩ s hs j hj
    have hle := (hall s hs (pValueAt pValues j) (by rw [List.getElem?_map, hj, Option.map_some])
      ).resolve_left (not_le.2 halpha)
    rwa [le_div_iff₀ (hcount s hs), mul_comm]

/-- The list is Holm's adjustment of the p-values: the formula of every adjusted p-value, and
what it brings for ties, for single p-values and for Holm's procedure. -/
structure IsHolmAdjustment (pValues adjusted : List ℚ) : Prop where
  length_eq : adjusted.length = pValues.length
  formula : ∀ (i : ℕ) (x level : ℚ), pValues[i]? = some x → adjusted[i]? = some level →
    ∃ m, IsGreatest (holmProducts pValues x) m ∧ level = min 1 m
  ties : ∀ (i j : ℕ) (x : ℚ), pValues[i]? = some x → pValues[j]? = some x →
    adjusted[i]? = adjusted[j]?
  le : ∀ (i : ℕ) (x level : ℚ), pValues[i]? = some x → adjusted[i]? = some level → x ≤ level
  rejects : ∀ alpha < 1, ∀ order : List ℕ, order.Perm (List.range pValues.length) →
    (order.Pairwise fun i j => pValueAt pValues i ≤ pValueAt pValues j) →
    ∀ (i : ℕ) (level : ℚ), adjusted[i]? = some level →
      (i ∈ rejections (pValueAt pValues) alpha pValues.length 0 order ↔ level ≤ alpha)

theorem isHolmAdjustment_holmAdjust (sqrt : ℚ → ℚ) (h : ∀ p ∈ pValues, 0 ≤ p ∧ p ≤ 1) :
    IsHolmAdjustment pValues (holmAdjust (.exact sqrt) pValues) := by
  have hnonneg : ∀ p ∈ pValues, 0 ≤ p := fun p hp => (h p hp).1
  have hformula : ∀ (i : ℕ) (x level : ℚ), pValues[i]? = some x →
      (holmAdjust (.exact sqrt) pValues)[i]? = some level →
      ∃ m, IsGreatest (holmProducts pValues x) m ∧ level = min 1 m := by
    intro i x level hx hlevel
    obtain ⟨m, hm⟩ := exists_isGreatest_holmProducts (List.mem_of_getElem? hx)
    exact ⟨m, hm, holmAdjust_eq_min hnonneg hx hlevel hm⟩
  refine ⟨length_holmAdjust _ pValues, hformula, ?_, ?_, ?_⟩
  · intro i j x hi hj
    exact holmAdjust_eq_of_perm (List.Perm.refl pValues) hnonneg hi hj
  · intro i x level hx hlevel
    obtain ⟨m, hm, rfl⟩ := hformula i x level hx hlevel
    have hmem := List.mem_of_getElem? hx
    refine le_min (h x hmem).2 (le_trans ?_ (hm.2 ⟨x, hmem, le_rfl, rfl⟩))
    have hcount : (1 : ℚ) ≤ ((pValues.countP fun q => decide (x ≤ q) : ℕ) : ℚ) := by
      rw [Nat.one_le_cast, Nat.one_le_iff_ne_zero, Nat.ne_zero_iff_zero_lt, List.countP_pos_iff]
      exact ⟨x, hmem, decide_eq_true le_rfl⟩
    exact le_mul_of_one_le_left (hnonneg x hmem) hcount
  · intro alpha halpha order hperm hsorted i level hlevel
    exact mem_rejections_iff_le hnonneg halpha hperm hsorted hlevel

/-- The adjustment goes along with every permutation of the p-values. -/
theorem holmAdjust_perm (sqrt : ℚ → ℚ) (hnonneg : ∀ p ∈ pValues, 0 ≤ p)
    (σ : Equiv.Perm (Fin pValues.length)) :
    holmAdjust (.exact sqrt) (List.ofFn fun k => pValues[σ k])
      = List.ofFn fun k => (holmAdjust (.exact sqrt) pValues).getD (σ k) 0 := by
  have hperm : (List.ofFn fun k => pValues[σ k]).Perm pValues := by
    have hself : (List.ofFn fun k : Fin pValues.length => pValues[k]) = pValues :=
      List.ofFn_getElem
    have hofFn := Equiv.Perm.ofFn_comp_perm σ fun k => pValues[k]
    rwa [hself] at hofFn
  apply List.ext_getElem?
  intro k
  by_cases hk : k < pValues.length
  · have hother : (List.ofFn fun k => pValues[σ k])[k]? = some pValues[σ ⟨k, hk⟩] := by
      rw [List.getElem?_ofFn, dif_pos hk]
    have hσ := (σ ⟨k, hk⟩).isLt
    rw [holmAdjust_eq_of_perm hperm hnonneg hother (List.getElem?_eq_getElem hσ),
      List.getElem?_ofFn, dif_pos hk, List.getD_eq_getElem?_getD,
      List.getElem?_eq_getElem (by rwa [length_holmAdjust]), Option.getD_some]
  · rw [List.getElem?_eq_none (by rw [length_holmAdjust, List.length_ofFn]; exact not_lt.1 hk),
      List.getElem?_eq_none (by rw [List.length_ofFn]; exact not_lt.1 hk)]

/-- **`holm_adjust`** computes Holm's step-down adjustment, whatever the order of the p-values. -/
theorem holmAdjust_correct (sqrt : ℚ → ℚ) (pValues : List ℚ)
    (h : ∀ p ∈ pValues, 0 ≤ p ∧ p ≤ 1) :
    IsHolmAdjustment pValues (holmAdjust (.exact sqrt) pValues) ∧
    ∀ σ : Equiv.Perm (Fin pValues.length),
      holmAdjust (.exact sqrt) (List.ofFn fun k => pValues[σ k])
        = List.ofFn fun k => (holmAdjust (.exact sqrt) pValues).getD (σ k) 0 :=
  ⟨isHolmAdjustment_holmAdjust sqrt h, holmAdjust_perm sqrt fun p hp => (h p hp).1⟩

/-- Four p-values that are not in order. -/
theorem holmAdjust_sample :
    IsHolmAdjustment [1 / 100, 4 / 100, 3 / 100, 1 / 5]
        (holmAdjust (.exact id) [1 / 100, 4 / 100, 3 / 100, 1 / 5]) ∧
      ∀ σ : Equiv.Perm (Fin 4),
        holmAdjust (.exact id) (List.ofFn fun k => [1 / 100, 4 / 100, 3 / 100, 1 / 5][σ k])
          = List.ofFn fun k =>
            (holmAdjust (.exact id) [1 / 100, 4 / 100, 3 / 100, 1 / 5]).getD (σ k) 0 :=
  holmAdjust_correct id [1 / 100, 4 / 100, 3 / 100, 1 / 5] (by decide +kernel)

example : holmAdjust (.exact id) [1 / 100, 4 / 100, 3 / 100, 1 / 5]
    = [4 / 100, 9 / 100, 9 / 100, 1 / 5] := by decide +kernel

/-! ## Comparisons -/

/-- Every comparison gets the adjusted p-value of its own. -/
theorem adjustComparisons_getElem? {τ : Type} (A : Arithmetic τ)
    (comparisons : List (Comparison τ)) {i : ℕ} {comparison : Comparison τ} {adjusted : τ}
    (hi : comparisons[i]? = some comparison)
    (hadjusted : (holmAdjust A (comparisons.map (·.pValue)))[i]? = some adjusted) :
    (adjustComparisons A comparisons)[i]? = some { comparison with
      pValueHolm := adjusted
      significant005 := A.lt adjusted (A.ofRat (5 / 100)) } := by
  have hzip : (comparisons.zip (holmAdjust A (comparisons.map (·.pValue))))[i]?
      = some (comparison, adjusted) := List.getElem?_zip_eq_some.2 ⟨hi, hadjusted⟩
  rw [adjustComparisons, List.getElem?_map, hzip]
  rfl

end MatfVpn
