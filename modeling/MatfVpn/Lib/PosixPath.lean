/-
# POSIX paths

Pure paths of a POSIX system, as Python's `pathlib` reads and writes them: up to two
slashes at the front, and the components that are neither empty nor `.`.  Every path has
one text that is written, and many that are read.

* `ofText_toText` : a written path is read back;
* `length_toText_le` : writing a path that was read makes no text longer.
-/
import Mathlib.Algebra.GroupWithZero.Nat
import Mathlib.Algebra.Order.BigOperators.Group.List
import Mathlib.Algebra.Order.Group.Nat
import Mathlib.Data.Nat.Notation

/-- A component of a path. -/
def IsPathPart (part : List Char) : Prop := part ≠ [] ∧ part ≠ ['.'] ∧ '/' ∉ part

instance (part : List Char) : Decidable (IsPathPart part) :=
  inferInstanceAs (Decidable (part ≠ [] ∧ part ≠ ['.'] ∧ '/' ∉ part))

/-- A path. -/
structure PosixPath where
  slashes : ℕ
  parts : List (List Char)
  slashes_le : slashes ≤ 2
  isPart : ∀ part ∈ parts, IsPathPart part
  deriving DecidableEq

namespace PosixPath

/-! ## Reading and writing -/

/-- The slashes that are kept of `n` slashes at the front. -/
def keptSlashes (n : ℕ) : ℕ := if n = 2 then 2 else min n 1

theorem keptSlashes_le (n : ℕ) : keptSlashes n ≤ 2 ∧ keptSlashes n ≤ n := by
  unfold keptSlashes
  split <;> omega

/-- The components in a text. -/
def components (text : List Char) : List (List Char) :=
  (text.splitOn '/').filter fun part => part ≠ [] ∧ part ≠ ['.']

/-- The pieces between slashes have no slash. -/
theorem slash_not_mem_of_mem_splitOn {text : List Char} :
    ∀ piece ∈ text.splitOn '/', '/' ∉ piece := by
  induction text with
  | nil =>
    intro piece hpiece
    rw [List.splitOn_nil, List.mem_singleton] at hpiece
    rw [hpiece]
    exact List.not_mem_nil
  | cons c text ih =>
    rw [List.splitOn_cons_eq_if_modifyHead]
    by_cases hc : c = '/'
    · rw [if_pos (by simp [hc])]
      intro piece hpiece
      rcases List.mem_cons.1 hpiece with rfl | hpiece
      · exact List.not_mem_nil
      · exact ih piece hpiece
    · rw [if_neg (by simp [hc])]
      obtain ⟨first, rest, hsplit⟩ := List.exists_cons_of_ne_nil (List.splitOn_ne_nil '/' text)
      rw [hsplit] at ih ⊢
      intro piece hpiece
      rcases List.mem_cons.1 hpiece with rfl | hpiece
      · intro hmem
        rcases List.mem_cons.1 hmem with hc' | hmem
        · exact hc hc'.symm
        · exact ih first List.mem_cons_self hmem
      · exact ih piece (List.mem_cons_of_mem _ hpiece)

theorem isPart_of_mem_components {text : List Char} :
    ∀ part ∈ components text, IsPathPart part := by
  intro part hpart
  obtain ⟨hmem, hproper⟩ := List.mem_filter.1 hpart
  rw [decide_eq_true_eq] at hproper
  exact ⟨hproper.1, hproper.2, slash_not_mem_of_mem_splitOn part hmem⟩

/-- The path that a text names. -/
def ofText (text : List Char) : PosixPath where
  slashes := keptSlashes (text.takeWhile (· = '/')).length
  parts := components (text.dropWhile (· = '/'))
  slashes_le := (keptSlashes_le _).1
  isPart := isPart_of_mem_components

/-- The text of a path. -/
def toText (path : PosixPath) : List Char :=
  if path.slashes = 0 ∧ path.parts = [] then ['.']
  else List.replicate path.slashes '/' ++ ['/'].intercalate path.parts

/-- The path starts at the root. -/
def isAbsolute (path : PosixPath) : Bool := path.slashes ≠ 0

/-- The path of the directory. -/
def parent (path : PosixPath) : PosixPath where
  slashes := path.slashes
  parts := path.parts.dropLast
  slashes_le := path.slashes_le
  isPart part hpart := path.isPart part ((List.dropLast_sublist _).subset hpart)

/-- A path relative to a directory. -/
def join (directory path : PosixPath) : PosixPath :=
  if path.isAbsolute then path
  else {
    slashes := directory.slashes
    parts := directory.parts ++ path.parts
    slashes_le := directory.slashes_le
    isPart := fun part hpart => (List.mem_append.1 hpart).elim (directory.isPart part)
      (path.isPart part) }

/-! ## Round trip -/

/-- The first component does not start with a slash. -/
theorem intercalate_head {parts : List (List Char)} (h : ∀ part ∈ parts, IsPathPart part) :
    ∀ c ∈ (['/'].intercalate parts).head?, c ≠ '/' := by
  intro c hc
  cases parts with
  | nil =>
    rw [List.intercalate_nil] at hc
    cases hc
  | cons part parts =>
    obtain ⟨hne, -, hslash⟩ := h part List.mem_cons_self
    obtain ⟨d, rest, rfl⟩ := List.exists_cons_of_ne_nil hne
    have hhead : (['/'].intercalate ((d :: rest) :: parts)).head? = some d := by
      cases parts with
      | nil => rw [List.intercalate_singleton]; rfl
      | cons next parts => rw [List.intercalate_cons_cons]; rfl
    rw [hhead] at hc
    rintro rfl
    rw [← Option.some.inj hc] at hslash
    exact hslash List.mem_cons_self

/-- Slashes at the front are told from what follows. -/
theorem span_replicate {n : ℕ} {rest : List Char} (h : ∀ c ∈ rest.head?, c ≠ '/') :
    (List.replicate n '/' ++ rest).takeWhile (· = '/') = List.replicate n '/' ∧
      (List.replicate n '/' ++ rest).dropWhile (· = '/') = rest := by
  induction n with
  | zero =>
    cases rest with
    | nil => exact ⟨rfl, rfl⟩
    | cons c rest =>
      have hc : ¬ (decide (c = '/') = true) := by
        rw [decide_eq_true_eq]
        exact h c rfl
      rw [List.replicate_zero, List.nil_append]
      exact ⟨List.takeWhile_cons_of_neg hc, List.dropWhile_cons_of_neg hc⟩
  | succ n ih =>
    rw [List.replicate_succ, List.cons_append, List.takeWhile_cons_of_pos (by decide),
      List.dropWhile_cons_of_pos (by decide), ih.1]
    exact ⟨rfl, ih.2⟩

/-- The components of joined components. -/
theorem components_intercalate {parts : List (List Char)}
    (h : ∀ part ∈ parts, IsPathPart part) : components (['/'].intercalate parts) = parts := by
  by_cases hnil : parts = []
  · rw [hnil]
    decide
  · rw [components, List.splitOn_intercalate _ (fun part hpart => (h part hpart).2.2) hnil]
    apply List.filter_eq_self.2
    intro part hpart
    rw [decide_eq_true_eq]
    exact ⟨(h part hpart).1, (h part hpart).2.1⟩

/-- **Round trip.** A written path is read back. -/
theorem ofText_toText (path : PosixPath) : ofText path.toText = path := by
  obtain ⟨slashes, parts, hle, hparts⟩ := path
  by_cases hempty : slashes = 0 ∧ parts = []
  · obtain ⟨rfl, rfl⟩ := hempty
    rfl
  · obtain ⟨htake, hdrop⟩ := span_replicate (n := slashes) (intercalate_head hparts)
    have hkept : keptSlashes slashes = slashes := by
      unfold keptSlashes
      split <;> omega
    simp only [toText, if_neg hempty, ofText, htake, hdrop, List.length_replicate, hkept,
      components_intercalate hparts]

/-! ## Lengths -/

/-- A joined list has a separator after every component but the last. -/
theorem length_intercalate {parts : List (List Char)} (h : parts ≠ []) :
    (['/'].intercalate parts).length + 1 = (parts.map fun part => part.length + 1).sum := by
  induction parts with
  | nil => exact absurd rfl h
  | cons part parts ih =>
    by_cases hnil : parts = []
    · rw [hnil, List.intercalate_singleton]
      rfl
    · rw [List.intercalate_cons_of_ne_nil hnil, List.map_cons, List.sum_cons, ← ih hnil]
      simp only [List.length_append, List.length_singleton]
      omega

theorem length_components_le (text : List Char) :
    (['/'].intercalate (components text)).length ≤ text.length := by
  by_cases hnil : components text = []
  · rw [hnil]
    exact Nat.zero_le _
  · have hsum : ((components text).map fun part => part.length + 1).sum ≤
        ((text.splitOn '/').map fun part => part.length + 1).sum :=
      (List.filter_sublist.map _).sum_le_sum fun _ _ => Nat.zero_le _
    rw [← length_intercalate hnil, ← length_intercalate (List.splitOn_ne_nil '/' text),
      List.intercalate_splitOn] at hsum
    omega

/-- **No text gets longer.** The empty text apart, which names the path `.`. -/
theorem length_toText_le (text : List Char) :
    (ofText text).toText.length ≤ max text.length 1 := by
  unfold toText
  split
  · exact Nat.le_max_right _ _
  · apply Nat.le_trans ?_ (Nat.le_max_left _ _)
    have hsplit := congrArg List.length (List.takeWhile_append_dropWhile (p := (· = '/'))
      (l := text))
    rw [List.length_append] at hsplit
    have hbody := length_components_le (text.dropWhile (· = '/'))
    have hkept := (keptSlashes_le (text.takeWhile (· = '/')).length).2
    rw [List.length_append, List.length_replicate]
    show keptSlashes _ + (['/'].intercalate (components _)).length ≤ _
    omega

end PosixPath
