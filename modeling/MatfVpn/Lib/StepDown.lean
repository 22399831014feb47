/-
# Step-down adjustment of p-values

Holm's procedure takes `n` hypotheses in the order of their p-values and rejects the one of
rank `r` as long as the p-value is at most `α / (n - r)`.  The adjusted p-values are the
running maxima of `(n - r) * p`, clamped to one: the hypotheses with an adjusted p-value of at
most `α` are those that the procedure rejects.

* `levels_le_iff_rank` : an adjusted p-value and the ranks up to its own;
* `levels_le_iff_count` : the same without ranks;
* `mem_rejections_iff` : what the procedure rejects.
-/
import Mathlib.Algebra.Order.Field.Basic
import Mathlib.Data.List.Basic
import Mathlib.Data.List.Pairwise
import Mathlib.Data.Nat.Cast.Order.Ring
import Mathlib.Order.Lattice

namespace StepDown

variable {α : Type} [Field α] [LinearOrder α]

/-- The adjusted p-values of the sorted p-values `values`, which start at the rank `rank`. -/
def levels (count : ℕ) : ℕ → α → List α → List α
  | _, _, [] => []
  | rank, running, p :: values =>
      let running := max running (min 1 (((count - rank : ℕ) : α) * p))
      running :: levels count (rank + 1) running values

/-- The hypotheses that are rejected, of those from the rank `rank` on. -/
def rejections {ι : Type} (p : ι → α) (alpha : α) (count : ℕ) : ℕ → List ι → List ι
  | _, [] => []
  | rank, i :: order =>
      if p i ≤ alpha / ((count - rank : ℕ) : α) then
        i :: rejections p alpha count (rank + 1) order
      else []

@[simp] theorem length_levels (count rank : ℕ) (running : α) (values : List α) :
    (levels count rank running values).length = values.length := by
  induction values generalizing rank running with
  | nil => rfl
  | cons p values ih => rw [levels, List.length_cons, ih, List.length_cons]

/-! ## Ranks -/

/-- **An adjusted p-value** and the ranks up to its own. -/
theorem levels_le_iff_rank {count rank : ℕ} {running a level : α} {values : List α} {r : ℕ}
    (h : (levels count rank running values)[r]? = some level) :
    level ≤ a ↔ running ≤ a ∧ ∀ s ≤ r, ∀ p, values[s]? = some p →
      1 ≤ a ∨ ((count - (rank + s) : ℕ) : α) * p ≤ a := by
  induction values generalizing rank running r with
  | nil => cases h
  | cons p values ih =>
    rw [levels] at h
    have hfirst : max running (min 1 (((count - rank : ℕ) : α) * p)) ≤ a ↔
        running ≤ a ∧ (1 ≤ a ∨ ((count - rank : ℕ) : α) * p ≤ a) := by
      rw [max_le_iff, min_le_iff]
    cases r with
    | zero =>
      rw [List.getElem?_cons_zero, Option.some.injEq] at h
      rw [← h, hfirst]
      refine and_congr_right fun _ => ⟨fun hle s hs q hq => ?_, fun hall => ?_⟩
      · obtain rfl := Nat.le_zero.1 hs
        rw [← Option.some.inj hq]
        exact hle
      · exact hall 0 le_rfl p rfl
    | succ r =>
      rw [List.getElem?_cons_succ] at h
      rw [ih h, hfirst, and_assoc]
      refine and_congr_right fun _ => ⟨fun hle s hs q hq => ?_, fun hall => ⟨?_, ?_⟩⟩
      · cases s with
        | zero =>
          rw [← Option.some.inj hq]
          exact hle.1
        | succ s =>
          have hs' := hle.2 s (Nat.le_of_succ_le_succ hs) q hq
          rwa [Nat.add_assoc, Nat.add_comm 1 s] at hs'
      · exact hall 0 (Nat.zero_le _) p rfl
      · intro s hs q hq
        have hs' := hall (s + 1) (Nat.succ_le_succ hs) q hq
        rwa [Nat.add_comm s 1, ← Nat.add_assoc] at hs'

/-- **What the procedure rejects**: the hypotheses up to whose rank no p-value is too large. -/
theorem mem_rejections_iff {ι : Type} {p : ι → α} {alpha : α} {count rank r : ℕ} {order : List ι}
    {i : ι} (hnodup : order.Nodup) (hi : order[r]? = some i) :
    i ∈ rejections p alpha count rank order ↔
      ∀ s ≤ r, ∀ j, order[s]? = some j → p j ≤ alpha / ((count - (rank + s) : ℕ) : α) := by
  induction order generalizing rank r with
  | nil => cases hi
  | cons j order ih =>
    obtain ⟨hj, hnodup⟩ := List.nodup_cons.1 hnodup
    rw [rejections]
    -- a p-value that is too large ends the procedure; otherwise it goes on one rank later
    by_cases hle : p j ≤ alpha / ((count - rank : ℕ) : α)
    · rw [if_pos hle]
      cases r with
      | zero =>
        obtain rfl := Option.some.inj hi
        refine iff_of_true List.mem_cons_self fun s hs k hk => ?_
        obtain rfl := Nat.le_zero.1 hs
        rw [← Option.some.inj hk]
        exact hle
      | succ r =>
        rw [List.getElem?_cons_succ] at hi
        have hne : i ≠ j := by
          rintro rfl
          exact hj (List.mem_of_getElem? hi)
        rw [List.mem_cons, or_iff_right hne, ih hnodup hi]
        constructor
        · intro hall s hs k hk
          cases s with
          | zero =>
            rw [← Option.some.inj hk]
            exact hle
          | succ s =>
            have hs' := hall s (Nat.le_of_succ_le_succ hs) k hk
            rwa [Nat.add_assoc, Nat.add_comm 1 s] at hs'
        · intro hall s hs k hk
          have hs' := hall (s + 1) (Nat.succ_le_succ hs) k hk
          rwa [Nat.add_comm s 1, ← Nat.add_assoc] at hs'
    · rw [if_neg hle]
      refine iff_of_false List.not_mem_nil fun hall => hle ?_
      exact hall 0 (Nat.zero_le r) j rfl

/-! ## Counts -/

section counts

variable {β : Type} [LinearOrder β] {values : List β}

/-- In a sorted list the elements from the rank of `y` on are at least `y`. -/
theorem sub_le_countP (hsorted : values.Pairwise (· ≤ ·)) {s : ℕ} {y : β}
    (hy : values[s]? = some y) :
    values.length - s ≤ values.countP fun z => decide (y ≤ z) := by
  induction values generalizing s with
  | nil => cases hy
  | cons x values ih =>
    obtain ⟨hx, hsorted⟩ := List.pairwise_cons.1 hsorted
    cases s with
    | zero =>
      obtain rfl := Option.some.inj hy
      have hall : ∀ z ∈ x :: values, decide (x ≤ z) = true := by
        intro z hz
        rw [decide_eq_true_eq]
        rcases List.mem_cons.1 hz with rfl | hz
        · exact le_rfl
        · exact hx z hz
      rw [List.countP_eq_length.2 hall]
      exact Nat.sub_le _ _
    | succ s =>
      have hcount := ih hsorted hy
      rw [List.countP_cons, List.length_cons]
      omega

/-- The first element as large as `y` is of a rank that has just these elements from it on. -/
theorem exists_rank (hsorted : values.Pairwise (· ≤ ·)) {y : β} (hy : y ∈ values) :
    ∃ s, values[s]? = some y ∧ (values.countP fun z => decide (y ≤ z)) = values.length - s ∧
      ∀ r x, values[r]? = some x → y ≤ x → s ≤ r := by
  induction values with
  | nil => exact absurd hy List.not_mem_nil
  | cons x values ih =>
    obtain ⟨hx, hsorted⟩ := List.pairwise_cons.1 hsorted
    by_cases hle : y ≤ x
    · have hyx : x = y := by
        rcases List.mem_cons.1 hy with rfl | hmem
        · rfl
        · exact le_antisymm (hx y hmem) hle
      subst hyx
      refine ⟨0, rfl, ?_, fun r _ _ _ => Nat.zero_le r⟩
      rw [Nat.sub_zero, List.countP_eq_length]
      intro z hz
      rw [decide_eq_true_eq]
      rcases List.mem_cons.1 hz with rfl | hz
      · exact le_rfl
      · exact hx z hz
    · have hmem : y ∈ values := by
        refine (List.mem_cons.1 hy).resolve_left ?_
        rintro rfl
        exact hle le_rfl
      obtain ⟨s, hs, hcount, hfirst⟩ := ih hsorted hmem
      refine ⟨s + 1, hs, ?_, fun r z hr hyz => ?_⟩
      · rw [List.countP_cons_of_neg (by rwa [decide_eq_true_eq]), hcount, List.length_cons]
        omega
      · cases r with
        | zero =>
          rw [← Option.some.inj hr] at hyz
          exact absurd hyz hle
        | succ r => exact Nat.succ_le_succ (hfirst r z hr hyz)

end counts

/-- **An adjusted p-value**, without ranks. -/
theorem levels_le_iff_count [IsStrictOrderedRing α] {values : List α}
    (hsorted : values.Pairwise (· ≤ ·)) (hnonneg : ∀ p ∈ values, 0 ≤ p) {r : ℕ}
    {x level a : α} (hx : values[r]? = some x)
    (h : (levels values.length 0 0 values)[r]? = some level) :
    level ≤ a ↔ 0 ≤ a ∧ (1 ≤ a ∨ ∀ y ∈ values, y ≤ x →
      ((values.countP fun z => decide (y ≤ z) : ℕ) : α) * y ≤ a) := by
  rw [levels_le_iff_rank h]
  refine and_congr_right fun _ => ⟨fun hranks => ?_, fun hcounts s hs y hy => ?_⟩
  · refine or_iff_not_imp_left.2 fun hone y hy hyx => ?_
    obtain ⟨s, hs, hcount, hfirst⟩ := exists_rank hsorted hy
    have hlevel := (hranks s (hfirst r x hx hyx) y hs).resolve_left hone
    rwa [Nat.zero_add, ← hcount] at hlevel
  · refine hcounts.imp_right fun hcounts => ?_
    have hmem := List.mem_of_getElem? hy
    have hyx : y ≤ x := by
      obtain ⟨hrl, rfl⟩ := List.getElem?_eq_some_iff.1 hx
      obtain ⟨hsl, rfl⟩ := List.getElem?_eq_some_iff.1 hy
      exact hsorted.rel_get_of_le (a := ⟨s, hsl⟩) (b := ⟨r, hrl⟩) hs
    refine le_trans (mul_le_mul_of_nonneg_right ?_ (hnonneg y hmem)) (hcounts y hmem hyx)
    rw [Nat.zero_add, Nat.cast_le]
    exact sub_le_countP hsorted hy

end StepDown
