/-
# Summaries in exact arithmetic

With exact rational numbers `_percentile` follows the broken line through the sorted samples,
and the median is its middle.

* `percentile_eq` : `_percentile`, as a point of the line;
* `median_eq` : the median, as another;
* `summarize_bounds` : the order of the parts of a summary, which depend on the samples alone;
* `summarize_isOk_iff` : when there is a summary, for arbitrary floats.
-/
import MatfVpn.Benchmark
import MatfVpn.Lib.Interpolation
import Mathlib.Algebra.Order.BigOperators.Group.List

namespace MatfVpn

open Interpolation

variable {τ : Type} {sqrt : ℚ → ℚ} {values samples samples' : List ℚ}

/-! ## Sorting -/

theorem sorted_perm (A : Arithmetic τ) (samples : List τ) :
    (A.sorted samples).Perm samples := A.sortedBy_perm id samples

theorem sorted_pairwise (sqrt : ℚ → ℚ) (samples : List ℚ) :
    ((Arithmetic.exact sqrt).sorted samples).Pairwise (· ≤ ·) :=
  Arithmetic.sortedBy_pairwise sqrt id samples

/-- Sorted samples are left as they are. -/
theorem sorted_eq_self (h : values.Pairwise (· ≤ ·)) :
    (Arithmetic.exact sqrt).sorted values = values :=
  List.Perm.eq_of_pairwise (fun _ _ _ _ => le_antisymm) (sorted_pairwise sqrt values) h
    (sorted_perm _ values)

/-- The order of the samples does not matter. -/
theorem sorted_eq_of_perm (h : samples'.Perm samples) :
    (Arithmetic.exact sqrt).sorted samples' = (Arithmetic.exact sqrt).sorted samples :=
  List.Perm.eq_of_pairwise (fun _ _ _ _ => le_antisymm) (sorted_pairwise sqrt samples')
    (sorted_pairwise sqrt samples)
    (((sorted_perm _ samples').trans h).trans (sorted_perm _ samples).symm)

theorem sorted_ne_nil (sqrt : ℚ → ℚ) (h : samples ≠ []) :
    (Arithmetic.exact sqrt).sorted samples ≠ [] := by
  intro hnil
  have hperm := sorted_perm (Arithmetic.exact sqrt) samples
  rw [hnil] at hperm
  exact h hperm.nil_eq.symm

/-! ## The line through the samples -/

/-- An index of the list. -/
theorem listItem_eq {k : ℤ} (hk : 0 ≤ k) (hlt : k < values.length) :
    listItem values k = .ok (element values k) := by
  obtain ⟨n, rfl⟩ := Int.eq_ofNat_of_zero_le hk
  have hn : n < values.length := by omega
  have hget := List.getElem?_eq_getElem hn
  unfold listItem
  rw [if_neg (by omega), if_neg (by omega), Int.toNat_natCast, hget, element_natCast hget]

/-- The position of a fraction between the first index and the last. -/
theorem position_bounds (h : values ≠ []) {f : ℚ} (hf : 0 ≤ f) (hf' : f ≤ 1) :
    0 ≤ ⌊((values.length : ℚ) - 1) * f⌋ ∧ ⌈((values.length : ℚ) - 1) * f⌉ < values.length := by
  have hpos : (1 : ℚ) ≤ values.length := by
    exact_mod_cast List.length_pos_iff.2 h
  have hle : ((values.length : ℚ) - 1) * f ≤ values.length - 1 :=
    mul_le_of_le_one_right (sub_nonneg.2 hpos) hf'
  constructor
  · exact Int.floor_nonneg.2 (mul_nonneg (sub_nonneg.2 hpos) hf)
  · have hceil : ⌈((values.length : ℚ) - 1) * f⌉ ≤ (values.length : ℤ) - 1 := by
      rw [Int.ceil_le]
      push_cast
      exact hle
    omega

/-- **`_percentile`** is a point of the line. -/
theorem percentile_eq (sqrt : ℚ → ℚ) (h : values ≠ []) {f : ℚ} (hf : 0 ≤ f) (hf' : f ≤ 1) :
    percentile (.exact sqrt) values f
      = .ok (interpolate (element values) (((values.length : ℚ) - 1) * f)) := by
  obtain ⟨hfloor, hceil⟩ := position_bounds h hf hf'
  have hle := Int.floor_le_ceil (((values.length : ℚ) - 1) * f)
  unfold percentile
  by_cases hone : values.length = 1
  · have hzero := interpolate_intCast (element values) 0
    rw [Int.cast_zero] at hzero
    rw [if_pos hone, listItem_eq le_rfl (by omega), hone, Nat.cast_one, sub_self, zero_mul, hzero]
  rw [if_neg hone]
  show (if ⌊((values.length : ℚ) - 1) * f⌋ = ⌈((values.length : ℚ) - 1) * f⌉ then _ else _) = _
  by_cases hequal : ⌊((values.length : ℚ) - 1) * f⌋ = ⌈((values.length : ℚ) - 1) * f⌉
  · rw [if_pos hequal]
    show listItem values ⌊((values.length : ℚ) - 1) * f⌋ = _
    rw [listItem_eq hfloor (by omega), interpolate_eq, hequal, sub_self, zero_mul, add_zero]
  · rw [if_neg hequal]
    show (listItem values ⌊((values.length : ℚ) - 1) * f⌋ >>= fun low =>
      listItem values ⌈((values.length : ℚ) - 1) * f⌉ >>= fun high => _) = _
    rw [listItem_eq hfloor (by omega), listItem_eq (hfloor.trans hle) hceil]
    rfl

/-- **The median** is the middle of the line. -/
theorem median_eq (sqrt : ℚ → ℚ) (hsorted : values.Pairwise (· ≤ ·)) (h : values ≠ []) :
    median (.exact sqrt) values
      = .ok (interpolate (element values) (((values.length : ℚ) - 1) * (1 / 2))) := by
  have hpos := List.length_pos_iff.2 h
  unfold median
  rw [sorted_eq_self hsorted]
  simp only
  rw [if_neg (by omega)]
  by_cases hodd : values.length % 2 = 1
  · rw [if_pos hodd, listItem_eq (by omega) (by omega)]
    have hposition : ((values.length : ℚ) - 1) * (1 / 2) = ((values.length / 2 : ℕ) : ℤ) := by
      have hlength : values.length = 2 * (values.length / 2) + 1 := by omega
      generalize values.length / 2 = k at hlength
      rw [hlength]
      push_cast
      ring
    rw [hposition, interpolate_intCast]
  · rw [if_neg hodd, listItem_eq (by omega) (by omega), listItem_eq (by omega) (by omega)]
    have hposition : ((values.length : ℚ) - 1) * (1 / 2)
        = ((values.length / 2 - 1 : ℕ) : ℤ) + 1 / 2 := by
      have hlength : values.length = 2 * (values.length / 2 - 1) + 2 := by omega
      generalize values.length / 2 - 1 = k at hlength
      rw [hlength]
      push_cast
      ring
    rw [interpolate_half _ hposition]
    have hnext : (((values.length / 2 - 1 : ℕ) : ℤ) + 1) = (values.length / 2 : ℕ) := by omega
    rw [hnext]
    rfl

/-- The order of the values does not matter for the median. -/
theorem median_eq_of_perm {values values' : List ℚ} (h : values'.Perm values) :
    median (.exact sqrt) values' = median (.exact sqrt) values := by
  unfold median
  rw [sorted_eq_of_perm h]

/-- **The median** of values on a rising straight line. -/
theorem median_affine_of_nonneg (sqrt : ℚ → ℚ) {a b : ℚ} (hb : 0 ≤ b) (h : values ≠ [])
    (hvalues : ∀ k, k < values.length → values[k]? = some (a + b * k)) :
    median (.exact sqrt) values = .ok (a + b * (((values.length : ℚ) - 1) * (1 / 2))) := by
  have helement : ∀ k : ℤ, 0 ≤ k → k < values.length → element values k = a + b * k := by
    intro k hk hlt
    obtain ⟨n, rfl⟩ := Int.eq_ofNat_of_zero_le hk
    rw [element_natCast (hvalues n (by omega)), Int.cast_natCast]
  have hsorted : values.Pairwise (· ≤ ·) := by
    rw [List.pairwise_iff_getElem]
    intro i j hi hj hij
    rw [← Option.some.inj ((hvalues i hi).symm.trans (List.getElem?_eq_getElem hi)),
      ← Option.some.inj ((hvalues j hj).symm.trans (List.getElem?_eq_getElem hj))]
    have hcast : (i : ℚ) ≤ j := by
      exact_mod_cast hij.le
    exact add_le_add_right (mul_le_mul_of_nonneg_left hcast hb) a
  have hhalf : (0 : ℚ) ≤ 1 / 2 ∧ (1 / 2 : ℚ) ≤ 1 := by norm_num
  obtain ⟨hfloor, hceil⟩ := position_bounds h hhalf.1 hhalf.2
  have hle := Int.floor_le_ceil (((values.length : ℚ) - 1) * (1 / 2))
  rw [median_eq sqrt hsorted h]
  apply congrArg Except.ok
  exact interpolate_affine (helement _ hfloor (by omega)) (helement _ (hfloor.trans hle) hceil)

/-- The median of values on any straight line. -/
theorem median_affine (sqrt : ℚ → ℚ) {a b : ℚ} (h : values ≠ [])
    (hvalues : ∀ k, k < values.length → values[k]? = some (a + b * k)) :
    median (.exact sqrt) values = .ok (a + b * (((values.length : ℚ) - 1) * (1 / 2))) := by
  rcases le_total 0 b with hb | hb
  · exact median_affine_of_nonneg sqrt hb h hvalues
  -- A falling line rises when it is read from its end.
  have hreverse : ∀ k, k < values.reverse.length →
      values.reverse[k]? = some (a + b * ((values.length : ℚ) - 1) + -b * k) := by
    intro k hk
    rw [List.length_reverse] at hk
    rw [List.getElem?_reverse hk, hvalues _ (by omega)]
    have hlength : ((values.length - 1 - k : ℕ) : ℚ) = values.length - 1 - k := by
      rw [Nat.cast_sub (by omega), Nat.cast_sub (by omega), Nat.cast_one]
    rw [hlength]
    apply congrArg some
    ring
  have hmedian := median_affine_of_nonneg sqrt (neg_nonneg.2 hb)
    (List.reverse_ne_nil_iff.2 h) hreverse
  rw [← median_eq_of_perm (List.reverse_perm values), hmedian, List.length_reverse]
  apply congrArg Except.ok
  ring

/-! ## Percentiles -/

/-- What `_percentile` of sorted values does for fractions between zero and one. -/
structure Interpolates (A : Arithmetic ℚ) (values : List ℚ) : Prop where
  monotone : ∀ f g, 0 ≤ f → f ≤ g → g ≤ 1 → ∃ x y, percentile A values f = .ok x ∧
    percentile A values g = .ok y ∧ x ≤ y
  between : ∀ f, 0 ≤ f → f ≤ 1 → ∃ first last x, values.head? = some first ∧
    values.getLast? = some last ∧ percentile A values f = .ok x ∧ first ≤ x ∧ x ≤ last
  inside : ∀ f, 0 ≤ f → f ≤ 1 → 0 ≤ A.floor (A.mul (A.ofRat (values.length - 1)) f) ∧
    A.ceil (A.mul (A.ofRat (values.length - 1)) f) < values.length
  half : percentile A values (1 / 2) = median A values

/-- The line at the fraction. -/
def lineAt (values : List ℚ) (f : ℚ) : ℚ :=
  interpolate (element values) (((values.length : ℚ) - 1) * f)

theorem lineAt_mono (hsorted : values.Pairwise (· ≤ ·)) (h : values ≠ []) {f g : ℚ} (hfg : f ≤ g) :
    lineAt values f ≤ lineAt values g := by
  apply interpolate_mono (element_mono hsorted)
  have hpos : (1 : ℚ) ≤ values.length := by
    exact_mod_cast List.length_pos_iff.2 h
  exact mul_le_mul_of_nonneg_left hfg (sub_nonneg.2 hpos)

theorem lineAt_zero (values : List ℚ) : lineAt values 0 = element values 0 := by
  have hzero := interpolate_intCast (element values) 0
  rw [Int.cast_zero] at hzero
  rw [lineAt, mul_zero, hzero]

theorem lineAt_one (values : List ℚ) : lineAt values 1 = element values (values.length - 1) := by
  have hlast := interpolate_intCast (element values) ((values.length : ℤ) - 1)
  push_cast at hlast
  rw [lineAt, mul_one, hlast]

theorem head?_eq_element (h : values ≠ []) : values.head? = some (element values 0) := by
  rw [List.head?_eq_getElem?, List.getElem?_eq_getElem (List.length_pos_iff.2 h)]
  exact congrArg some (element_natCast (List.getElem?_eq_getElem _)).symm

theorem getLast?_eq_element (h : values ≠ []) :
    values.getLast? = some (element values (values.length - 1)) := by
  have hpos := List.length_pos_iff.2 h
  have hlast : ((values.length : ℤ) - 1) = (values.length - 1 : ℕ) := by omega
  rw [List.getLast?_eq_getElem?, List.getElem?_eq_getElem (Nat.sub_lt hpos Nat.one_pos), hlast]
  exact congrArg some (element_natCast (List.getElem?_eq_getElem _)).symm

/-- **Percentiles** of sorted values. -/
theorem interpolates_of_sorted (sqrt : ℚ → ℚ) (hsorted : values.Pairwise (· ≤ ·))
    (h : values ≠ []) : Interpolates (.exact sqrt) values where
  monotone f g hf hfg hg := by
    refine ⟨_, _, percentile_eq sqrt h hf (hfg.trans hg), percentile_eq sqrt h (hf.trans hfg) hg,
      ?_⟩
    exact lineAt_mono hsorted h hfg
  between f hf hf' := by
    refine ⟨_, _, _, head?_eq_element h, getLast?_eq_element h, percentile_eq sqrt h hf hf', ?_, ?_⟩
    · rw [← lineAt_zero]
      exact lineAt_mono hsorted h hf
    · rw [← lineAt_one]
      exact lineAt_mono hsorted h hf'
  inside f hf hf' := position_bounds h hf hf'
  half := by
    rw [percentile_eq sqrt h (by norm_num) (by norm_num), median_eq sqrt hsorted h]

/-! ## Summaries -/

/-- The order of the parts of a summary. -/
structure Summary.Ordered (summary : Summary ℚ) : Prop where
  minimum_le_median : summary.minimum ≤ summary.median
  median_le_p95 : summary.median ≤ summary.p95
  p95_le_maximum : summary.p95 ≤ summary.maximum
  minimum_le_mean : summary.minimum ≤ summary.mean
  mean_le_maximum : summary.mean ≤ summary.maximum

/-- The mean is between the ends. -/
theorem mean_bounds (hsorted : values.Pairwise (· ≤ ·)) (h : values ≠ []) :
    element values 0 ≤ Arithmetic.mean values ∧
      Arithmetic.mean values ≤ element values (values.length - 1) := by
  have hpos : (0 : ℚ) < values.length := by
    exact_mod_cast List.length_pos_iff.2 h
  have hbounds : ∀ x ∈ values, element values 0 ≤ x ∧ x ≤ element values (values.length - 1) := by
    intro x hx
    obtain ⟨n, hn, rfl⟩ := List.mem_iff_getElem.1 hx
    rw [← element_natCast (List.getElem?_eq_getElem hn)]
    exact ⟨element_mono hsorted (by omega), element_mono hsorted (by omega)⟩
  unfold Arithmetic.mean
  constructor
  · rw [le_div_iff₀ hpos]
    have hsum := List.card_nsmul_le_sum values _ fun x hx => (hbounds x hx).1
    rwa [nsmul_eq_mul, mul_comm] at hsum
  · rw [div_le_iff₀ hpos]
    have hsum := List.sum_le_card_nsmul values _ fun x hx => (hbounds x hx).2
    rwa [nsmul_eq_mul, mul_comm] at hsum

theorem standardDeviation_eq (sqrt : ℚ → ℚ) (values : List ℚ) :
    ∃ deviation, standardDeviation (.exact sqrt) values = .ok deviation := by
  unfold standardDeviation
  by_cases hone : values.length > 1
  · rw [if_pos hone]
    exact ⟨_, if_neg (by omega)⟩
  · rw [if_neg hone]
    exact ⟨_, rfl⟩

/-- A summary depends only on the sorted samples. -/
theorem summarize_eq_of_sorted_eq {A : Arithmetic τ} {samples samples' : List τ}
    (h : A.sorted samples = A.sorted samples') : summarize A samples = summarize A samples' := by
  unfold summarize
  rw [h]

/-- **A summary** of sorted samples. -/
theorem summarize_of_sorted (sqrt : ℚ → ℚ) (hsorted : values.Pairwise (· ≤ ·)) (h : values ≠ []) :
    ∃ deviation low high, summarize (.exact sqrt) values = .ok {
      count := values.length
      minimum := element values 0
      maximum := element values (values.length - 1)
      mean := Arithmetic.mean values
      median := lineAt values (1 / 2)
      p95 := lineAt values (95 / 100)
      standardDeviation := deviation
      confidence95Low := low
      confidence95High := high } := by
  have hpos := List.length_pos_iff.2 h
  have hmean : (Arithmetic.exact sqrt).fmean values = .ok (Arithmetic.mean values) := if_neg h
  have hlast : listItem values (-1) = .ok (element values (values.length - 1)) := by
    have hposition : listItem values (-1) = listItem values ((values.length : ℤ) - 1) := by
      unfold listItem
      rw [if_pos (by decide : (-1 : ℤ) < 0), if_neg (by omega : ¬ (values.length : ℤ) - 1 < 0),
        neg_add_eq_sub]
    rw [hposition, listItem_eq (by omega) (by omega)]
  have hp95 : percentile (.exact sqrt) values ((Arithmetic.exact sqrt).ofRat (95 / 100))
      = .ok (lineAt values (95 / 100)) := by
    apply percentile_eq sqrt h
    · show (0 : ℚ) ≤ 95 / 100
      norm_num
    · show (95 / 100 : ℚ) ≤ 1
      norm_num
  have hmedian : median (.exact sqrt) values = .ok (lineAt values (1 / 2)) :=
    median_eq sqrt hsorted h
  obtain ⟨deviation, hdeviation⟩ := standardDeviation_eq sqrt values
  unfold summarize
  rw [sorted_eq_self hsorted]
  simp only
  rw [if_neg h, hmean, hdeviation, listItem_eq le_rfl (by omega), hlast, hmedian, hp95]
  exact ⟨deviation, _, _, rfl⟩

/-- **Summaries** of samples, and percentiles of the sorted samples. -/
theorem summarize_bounds (sqrt : ℚ → ℚ) (samples : List ℚ) (h : samples ≠ []) :
    (∃ summary, summarize (.exact sqrt) samples = .ok summary ∧ summary.Ordered ∧
      ∀ samples', samples'.Perm samples → summarize (.exact sqrt) samples' = .ok summary) ∧
    Interpolates (.exact sqrt) ((Arithmetic.exact sqrt).sorted samples) := by
  have hsorted := sorted_pairwise sqrt samples
  have hne := sorted_ne_nil sqrt h
  obtain ⟨deviation, low, high, hsummary⟩ := summarize_of_sorted sqrt hsorted hne
  obtain ⟨hmean, hmean'⟩ := mean_bounds hsorted hne
  have hperm : ∀ samples', samples'.Perm samples →
      summarize (.exact sqrt) samples'
        = summarize (.exact sqrt) ((Arithmetic.exact sqrt).sorted samples) := by
    intro samples' hperm
    exact summarize_eq_of_sorted_eq
      ((sorted_eq_of_perm hperm).trans (sorted_eq_self hsorted).symm)
  rw [hsummary] at hperm
  refine ⟨⟨_, hperm samples (List.Perm.refl samples), ⟨?_, ?_, ?_, hmean, hmean'⟩, hperm⟩,
    interpolates_of_sorted sqrt hsorted hne⟩
  · show element _ 0 ≤ lineAt _ (1 / 2)
    rw [← lineAt_zero]
    exact lineAt_mono hsorted hne (by norm_num)
  · exact lineAt_mono hsorted hne (by norm_num)
  · show lineAt _ (95 / 100) ≤ element _ _
    rw [← lineAt_one]
    exact lineAt_mono hsorted hne (by norm_num)

/-- Three samples. -/
theorem summarize_bounds_sample :
    (∃ summary, summarize (.exact id) [3, 1, 2] = .ok summary ∧ summary.Ordered ∧
      ∀ samples', samples'.Perm [3, 1, 2] → summarize (.exact id) samples' = .ok summary) ∧
    Interpolates (.exact id) ((Arithmetic.exact id).sorted [3, 1, 2]) :=
  summarize_bounds id [3, 1, 2] (by decide)

/-! ## When there is a summary -/

/-- The fraction 0.95 of a last index lies between the first index and the last. -/
def Arithmetic.IndexesPercentiles (A : Arithmetic τ) : Prop :=
  ∀ n : ℕ, 1 < n → 0 ≤ A.floor (A.mul (A.ofRat (n - 1)) (A.ofRat (95 / 100))) ∧
    A.floor (A.mul (A.ofRat (n - 1)) (A.ofRat (95 / 100)))
      ≤ A.ceil (A.mul (A.ofRat (n - 1)) (A.ofRat (95 / 100))) ∧
    A.ceil (A.mul (A.ofRat (n - 1)) (A.ofRat (95 / 100))) < n

theorem exact_indexesPercentiles (sqrt : ℚ → ℚ) : (Arithmetic.exact sqrt).IndexesPercentiles := by
  intro n hn
  have hne : List.replicate n (0 : ℚ) ≠ [] := by
    rw [Ne, List.replicate_eq_nil_iff]
    omega
  have hbounds := position_bounds hne (f := 95 / 100) (by norm_num) (by norm_num)
  rw [List.length_replicate] at hbounds
  exact ⟨hbounds.1, Int.floor_le_ceil _, hbounds.2⟩

/-- `statistics.fmean` and `statistics.stdev` return for the samples. -/
def HasStatistics (A : Arithmetic τ) (samples : List τ) : Prop :=
  (∃ mean, A.fmean (A.sorted samples) = .ok mean) ∧
    ∃ deviation, standardDeviation A (A.sorted samples) = .ok deviation

theorem listItem_isOk (values : List τ) {k : ℤ} (hk : 0 ≤ k) (hlt : k < values.length) :
    ∃ x, listItem values k = .ok x := by
  obtain ⟨n, rfl⟩ := Int.eq_ofNat_of_zero_le hk
  have hn : n < values.length := by omega
  refine ⟨values[n], ?_⟩
  unfold listItem
  rw [if_neg (by omega), if_neg (by omega), Int.toNat_natCast, List.getElem?_eq_getElem hn]

theorem median_isOk (A : Arithmetic τ) {values : List τ} (h : values ≠ []) :
    ∃ x, median A values = .ok x := by
  have hlength := (sorted_perm A values).length_eq
  have hpos := List.length_pos_iff.2 h
  unfold median
  simp only
  rw [hlength, if_neg (by omega)]
  by_cases hodd : values.length % 2 = 1
  · rw [if_pos hodd]
    exact listItem_isOk _ (by omega) (by omega)
  · rw [if_neg hodd]
    obtain ⟨low, hlow⟩ := listItem_isOk (A.sorted values)
      (k := (values.length / 2 - 1 : ℕ)) (by omega) (by omega)
    obtain ⟨high, hhigh⟩ := listItem_isOk (A.sorted values)
      (k := (values.length / 2 : ℕ)) (by omega) (by omega)
    rw [hlow, hhigh]
    exact ⟨_, rfl⟩

theorem percentile_isOk {A : Arithmetic τ} (hA : A.IndexesPercentiles) {values : List τ}
    (h : values ≠ []) : ∃ x, percentile A values (A.ofRat (95 / 100)) = .ok x := by
  have hpos := List.length_pos_iff.2 h
  unfold percentile
  by_cases hone : values.length = 1
  · rw [if_pos hone]
    exact listItem_isOk _ le_rfl (by omega)
  · obtain ⟨hfloor, hle, hceil⟩ := hA values.length (by omega)
    rw [if_neg hone]
    simp only
    split
    · exact listItem_isOk _ hfloor (by omega)
    · obtain ⟨low, hlow⟩ := listItem_isOk values hfloor (lt_of_le_of_lt hle hceil)
      obtain ⟨high, hhigh⟩ := listItem_isOk values (hfloor.trans hle) hceil
      rw [hlow, hhigh]
      exact ⟨_, rfl⟩

/-- **A summary** needs a mean and a standard deviation, and nothing else. -/
theorem summarize_isOk_iff {A : Arithmetic τ} (hA : A.IndexesPercentiles) {samples : List τ}
    (h : samples ≠ []) :
    (∃ summary, summarize A samples = .ok summary) ↔ HasStatistics A samples := by
  have hlength := (sorted_perm A samples).length_eq
  have hpos := List.length_pos_iff.2 h
  have hne : A.sorted samples ≠ [] := List.length_pos_iff.1 (by omega)
  unfold summarize
  simp only
  rw [if_neg hne]
  constructor
  · rintro ⟨summary, hsummary⟩
    obtain ⟨mean, hmean, hsummary⟩ := except_bind_eq_ok.1 hsummary
    obtain ⟨deviation, hdeviation, -⟩ := except_bind_eq_ok.1 hsummary
    exact ⟨⟨mean, hmean⟩, ⟨deviation, hdeviation⟩⟩
  · rintro ⟨⟨mean, hmean⟩, ⟨deviation, hdeviation⟩⟩
    obtain ⟨minimum, hminimum⟩ := listItem_isOk (A.sorted samples) le_rfl (by omega)
    have hlast : listItem (A.sorted samples) (-1)
        = listItem (A.sorted samples) ((A.sorted samples).length - 1) := by
      unfold listItem
      rw [if_pos (by decide : (-1 : ℤ) < 0),
        if_neg (by omega : ¬ ((A.sorted samples).length : ℤ) - 1 < 0), neg_add_eq_sub]
    obtain ⟨maximum, hmaximum⟩ := listItem_isOk (A.sorted samples)
      (k := (A.sorted samples).length - 1) (by omega) (by omega)
    obtain ⟨middle, hmiddle⟩ := median_isOk A hne
    obtain ⟨p95, hp95⟩ := percentile_isOk hA hne
    rw [hmean, hdeviation, hminimum, hlast, hmaximum, hmiddle, hp95]
    exact ⟨_, rfl⟩

end MatfVpn
