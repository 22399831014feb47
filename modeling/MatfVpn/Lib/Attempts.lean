/-
# Items that take several attempts

A worker makes `count` items, each in at most `limit` attempts, and the n-th attempt of all
brings an item or a reason why it failed.  `Reaches` says where the worker is before an attempt:
the items made so far, the failures so far and the number of failures of the item in work.

* `Reaches.unique` : there is one way to be at an attempt;
* `Ends.unique` : the work ends in one way, if at all: it is complete, or the attempts of an item
  are exhausted.
-/
import Mathlib.Data.List.Basic
import Mathlib.Data.Nat.Notation
import Mathlib.Tactic.ByContra

namespace Attempts

/-- A failure: the number of the item, the number of the attempt for it, and the reason. -/
structure Failure (β : Type) where
  item : ℕ
  attempt : ℕ
  reason : β
  deriving DecidableEq

variable {α β : Type}

/-- Where the worker is before the attempt `position`. -/
inductive Reaches (outcome : ℕ → Except β α) (count limit start : ℕ) :
    (items : List α) → (failures : List (Failure β)) → (tries position : ℕ) → Prop
  | start : Reaches outcome count limit start [] [] 0 start
  | success {items : List α} {failures : List (Failure β)} {tries position : ℕ} {item : α} :
      Reaches outcome count limit start items failures tries position → items.length < count →
      outcome position = .ok item →
      Reaches outcome count limit start (items ++ [item]) failures 0 (position + 1)
  | failure {items : List α} {failures : List (Failure β)} {tries position : ℕ} {reason : β} :
      Reaches outcome count limit start items failures tries position → items.length < count →
      outcome position = .error reason → tries + 1 < limit →
      Reaches outcome count limit start items
        (failures ++ [⟨items.length + 1, tries + 1, reason⟩]) (tries + 1) (position + 1)

/-- How the work ends. -/
inductive Ending (α β : Type) where
  | complete (items : List α) (failures : List (Failure β))
  | exhausted (item : ℕ)

/-- The work ends before or with the attempt `position`. -/
inductive Ends (outcome : ℕ → Except β α) (count limit start : ℕ) :
    Ending α β → (position : ℕ) → Prop
  | complete {items : List α} {failures : List (Failure β)} {tries position : ℕ} :
      Reaches outcome count limit start items failures tries position → items.length = count →
      Ends outcome count limit start (.complete items failures) position
  | exhausted {items : List α} {failures : List (Failure β)} {tries position : ℕ} {reason : β} :
      Reaches outcome count limit start items failures tries position → items.length < count →
      outcome position = .error reason → tries + 1 = limit →
      Ends outcome count limit start (.exhausted (items.length + 1)) position

section unique

variable {outcome : ℕ → Except β α} {count limit start : ℕ} {items items' : List α}
  {failures failures' : List (Failure β)} {tries tries' position position' : ℕ}

/-- Where the worker is after the first attempts. -/
theorem Reaches.start_le (h : Reaches outcome count limit start items failures tries position) :
    start ≤ position := by
  induction h with
  | start => exact Nat.le_refl start
  | success _ _ _ ih => exact Nat.le_succ_of_le ih
  | failure _ _ _ _ ih => exact Nat.le_succ_of_le ih

/-- An item takes an attempt. -/
theorem Reaches.start_lt (h : Reaches outcome count limit start items failures tries position)
    (hitems : items ≠ []) : start < position := by
  cases h with
  | start => exact absurd rfl hitems
  | success h _ _ => exact Nat.lt_succ_of_le h.start_le
  | failure h _ _ _ => exact Nat.lt_succ_of_le h.start_le

/-- How many failures the items have. -/
theorem Reaches.countP_item (h : Reaches outcome count limit start items failures tries position)
    (hlimit : 0 < limit) (item : ℕ) :
    failures.countP (·.item = item) < limit ∧
      (items.length < item → failures.countP (·.item = item)
        = if item = items.length + 1 then tries else 0) := by
  induction h with
  | start =>
    refine ⟨hlimit, fun _ => ?_⟩
    rw [List.countP_nil, ite_self]
  | @success items failures tries position made _ _ _ ih =>
    refine ⟨ih.1, fun hitem => ?_⟩
    rw [List.length_append, List.length_singleton] at hitem
    rw [ih.2 (by omega), if_neg (by omega), ite_self]
  | @failure items failures tries position reason _ _ _ htries ih =>
    rw [List.countP_append, List.countP_singleton]
    by_cases hitem : item = items.length + 1
    · have hcount := ih.2 (by omega)
      rw [if_pos hitem] at hcount
      rw [if_pos hitem, hcount, hitem, if_pos (decide_eq_true rfl)]
      exact ⟨htries, fun _ => rfl⟩
    · have hother : ¬ decide (items.length + 1 = item) = true := by
        rw [decide_eq_true_iff]
        exact fun h => hitem h.symm
      have hcount := ih.2
      rw [if_neg hitem] at hcount
      rw [if_neg hitem, if_neg hother, Nat.add_zero]
      exact ⟨ih.1, hcount⟩

/-- A failure is one of an item that is made or in work. -/
theorem Reaches.item_bounds (h : Reaches outcome count limit start items failures tries position) :
    ∀ failure ∈ failures, 0 < failure.item ∧
      (failure.item ≤ items.length ∨ failure.item = items.length + 1 ∧ 0 < tries) := by
  induction h with
  | start => exact List.forall_mem_nil _
  | @success items failures tries position made _ _ _ ih =>
    intro failure hfailure
    obtain ⟨hpos, hitem⟩ := ih failure hfailure
    rw [List.length_append, List.length_singleton]
    exact ⟨hpos, Or.inl (by omega)⟩
  | @failure items failures tries position reason _ _ _ _ ih =>
    refine List.forall_mem_append.2 ⟨?_, List.forall_mem_singleton.2 ?_⟩
    · intro failure hfailure
      obtain ⟨hpos, hitem⟩ := ih failure hfailure
      refine ⟨hpos, ?_⟩
      rcases hitem with hitem | ⟨hitem, -⟩
      · exact Or.inl hitem
      · exact Or.inr ⟨hitem, Nat.succ_pos tries⟩
    · exact ⟨Nat.succ_pos _, Or.inr ⟨rfl, Nat.succ_pos tries⟩⟩

/-- **The worker** is at an attempt in one way. -/
theorem Reaches.unique (h : Reaches outcome count limit start items failures tries position)
    (h' : Reaches outcome count limit start items' failures' tries' position) :
    items = items' ∧ failures = failures' ∧ tries = tries' := by
  -- the attempt before `position` decides the last step of both ways
  induction h generalizing items' failures' tries' with
  | start =>
    generalize hposition : start = position at h'
    cases h' with
    | start => exact ⟨rfl, rfl, rfl⟩
    | success h' _ _ =>
      have hle := h'.start_le
      omega
    | failure h' _ _ _ =>
      have hle := h'.start_le
      omega
  | @success items failures tries position item h hlt houtcome ih =>
    generalize hposition : position + 1 = position' at h'
    cases h' with
    | start =>
      have hle := h.start_le
      omega
    | success h' _ houtcome' =>
      obtain rfl := Nat.succ.inj hposition
      obtain ⟨rfl, rfl, rfl⟩ := ih h'
      rw [houtcome] at houtcome'
      obtain rfl := Except.ok.inj houtcome'
      exact ⟨rfl, rfl, rfl⟩
    | failure h' _ houtcome' _ =>
      obtain rfl := Nat.succ.inj hposition
      rw [houtcome] at houtcome'
      cases houtcome'
  | @failure items failures tries position reason h hlt houtcome hlimit ih =>
    generalize hposition : position + 1 = position' at h'
    cases h' with
    | start =>
      have hle := h.start_le
      omega
    | success h' _ houtcome' =>
      obtain rfl := Nat.succ.inj hposition
      rw [houtcome] at houtcome'
      cases houtcome'
    | failure h' _ houtcome' _ =>
      obtain rfl := Nat.succ.inj hposition
      obtain ⟨rfl, rfl, rfl⟩ := ih h'
      rw [houtcome] at houtcome'
      obtain rfl := Except.error.inj houtcome'
      exact ⟨rfl, rfl, rfl⟩

/-- The worker was at every attempt before. -/
theorem Reaches.of_le (h : Reaches outcome count limit start items failures tries position)
    (hstart : start ≤ position') (hle : position' ≤ position) :
    ∃ items' failures' tries',
      Reaches outcome count limit start items' failures' tries' position' := by
  induction h with
  | start =>
    obtain rfl := Nat.le_antisymm hle hstart
    exact ⟨[], [], 0, .start⟩
  | @success items failures tries position item h hlt houtcome ih =>
    rcases Nat.le_succ_iff.1 hle with hle | rfl
    · exact ih hle
    · exact ⟨_, _, _, .success h hlt houtcome⟩
  | @failure items failures tries position reason h hlt houtcome hlimit ih =>
    rcases Nat.le_succ_iff.1 hle with hle | rfl
    · exact ih hle
    · exact ⟨_, _, _, .failure h hlt houtcome hlimit⟩

/-- The attempt with which the work ends is one that the worker comes to. -/
theorem Ends.reaches {ending : Ending α β} (h : Ends outcome count limit start ending position) :
    ∃ items failures tries, Reaches outcome count limit start items failures tries position := by
  cases h with
  | complete h _ => exact ⟨_, _, _, h⟩
  | exhausted h _ _ _ => exact ⟨_, _, _, h⟩

/-- After its end the work does not go on. -/
theorem Ends.not_reaches_succ {ending : Ending α β}
    (h : Ends outcome count limit start ending position) :
    ¬ Reaches outcome count limit start items failures tries (position + 1) := by
  intro hnext
  generalize hposition : position + 1 = next at hnext
  cases hnext with
  | start =>
    obtain ⟨_, _, _, hreaches⟩ := h.reaches
    have hle := hreaches.start_le
    omega
  | success hbefore hlt houtcome =>
    obtain rfl := Nat.succ.inj hposition
    cases h with
    | complete h hcount =>
      obtain ⟨rfl, -, -⟩ := h.unique hbefore
      omega
    | exhausted h _ houtcome' _ =>
      rw [houtcome] at houtcome'
      cases houtcome'
  | failure hbefore hlt houtcome hlimit =>
    obtain rfl := Nat.succ.inj hposition
    cases h with
    | complete h hcount =>
      obtain ⟨rfl, -, -⟩ := h.unique hbefore
      omega
    | exhausted h _ _ htries =>
      obtain ⟨-, -, rfl⟩ := h.unique hbefore
      omega

/-- The attempts before the end of the work come before the end. -/
theorem Ends.le_of_reaches {ending : Ending α β}
    (h : Ends outcome count limit start ending position)
    (h' : Reaches outcome count limit start items' failures' tries' position') :
    position' ≤ position := by
  by_contra hlt
  obtain ⟨_, _, _, hreaches⟩ := h.reaches
  obtain ⟨_, _, _, hnext⟩ := h'.of_le (Nat.le_succ_of_le hreaches.start_le)
    (Nat.lt_of_not_le hlt)
  exact h.not_reaches_succ hnext

/-- **The work ends** in one way, if at all. -/
theorem Ends.unique {ending ending' : Ending α β}
    (h : Ends outcome count limit start ending position)
    (h' : Ends outcome count limit start ending' position') :
    ending = ending' ∧ position = position' := by
  obtain ⟨_, _, _, hreaches⟩ := h.reaches
  obtain ⟨_, _, _, hreaches'⟩ := h'.reaches
  obtain rfl := Nat.le_antisymm (h'.le_of_reaches hreaches) (h.le_of_reaches hreaches')
  refine ⟨?_, rfl⟩
  cases h with
  | complete h hcount =>
    cases h' with
    | complete h' _ =>
      obtain ⟨rfl, rfl, -⟩ := h.unique h'
      rfl
    | exhausted h' hlt _ _ =>
      obtain ⟨rfl, -, -⟩ := h.unique h'
      omega
  | exhausted h hlt houtcome _ =>
    cases h' with
    | complete h' hcount =>
      obtain ⟨rfl, -, -⟩ := h.unique h'
      omega
    | exhausted h' _ _ _ =>
      obtain ⟨rfl, -, -⟩ := h.unique h'
      rfl

end unique

end Attempts
