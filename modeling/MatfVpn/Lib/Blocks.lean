/-
# Joined blocks

The items of several blocks are joined into one list, and every item gets a number in this list
and the number of its block.

* `getElem?_join` : the items of a block follow those of the blocks before it;
* `filter_join` : the items with the number of a block are those of the block;
* `forall₂_join` : the numbers do not matter for what does not look at them.
-/
import Mathlib

namespace Blocks

variable {α β : Type}

/-- The number of items before the block `i`. -/
def offset (blocks : List (List α)) (i : ℕ) : ℕ := ((blocks.map List.length).take i).sum

/-- The items of every block, where `number` items and `block` blocks come before. -/
def numberBlocks (f : ℕ → ℕ → α → β) : (number block : ℕ) → List (List α) → List (List β)
  | _, _, [] => []
  | number, block, items :: blocks =>
      items.mapIdx (fun k => f (number + k + 1) (block + 1)) ::
        numberBlocks f (number + items.length) (block + 1) blocks

/-- The joined list: `f` gets the number of an item, the number of its block and the item. -/
def join (f : ℕ → ℕ → α → β) (blocks : List (List α)) : List β :=
  (numberBlocks f 0 0 blocks).flatten

@[simp] theorem offset_zero (blocks : List (List α)) : offset blocks 0 = 0 := rfl

theorem offset_cons_succ (items : List α) (blocks : List (List α)) (i : ℕ) :
    offset (items :: blocks) (i + 1) = items.length + offset blocks i := by
  rw [offset, List.map_cons, List.take_succ_cons, List.sum_cons]
  rfl

/-- The first block comes before the other ones. -/
theorem length_head_le_offset (items : List α) (blocks : List (List α)) {i : ℕ} (hi : 0 < i) :
    items.length ≤ offset (items :: blocks) i := by
  obtain ⟨i, rfl⟩ := Nat.exists_eq_succ_of_ne_zero (Nat.ne_of_gt hi)
  rw [Nat.succ_eq_add_one, offset_cons_succ]
  exact Nat.le_add_right _ _

section numberBlocks

variable (f : ℕ → ℕ → α → β)

@[simp] theorem length_numberBlocks (number block : ℕ) (blocks : List (List α)) :
    (numberBlocks f number block blocks).length = blocks.length := by
  induction blocks generalizing number block with
  | nil => rfl
  | cons items blocks ih => rw [numberBlocks, List.length_cons, List.length_cons, ih]

/-- The blocks keep their lengths. -/
theorem map_length_numberBlocks (number block : ℕ) (blocks : List (List α)) :
    (numberBlocks f number block blocks).map List.length = blocks.map List.length := by
  induction blocks generalizing number block with
  | nil => rfl
  | cons items blocks ih =>
    rw [numberBlocks, List.map_cons, List.map_cons, ih, List.length_mapIdx]

/-- **A block** with its numbers. -/
theorem getElem?_numberBlocks (number block : ℕ) (blocks : List (List α)) (i : ℕ) :
    (numberBlocks f number block blocks)[i]? = blocks[i]?.map fun items =>
      items.mapIdx fun k => f (number + offset blocks i + k + 1) (block + i + 1) := by
  induction blocks generalizing number block i with
  | nil => rfl
  | cons items blocks ih =>
    cases i with
    | zero => rfl
    | succ i =>
      rw [numberBlocks, List.getElem?_cons_succ, List.getElem?_cons_succ, ih, offset_cons_succ]
      simp only [Nat.add_assoc, Nat.add_comm 1 i]

end numberBlocks

/-- A list of a flattened list. -/
theorem getElem?_flatten_offset {chunks : List (List α)} {chunk : List α} {i k : ℕ}
    (hi : chunks[i]? = some chunk) (hk : k < chunk.length) :
    chunks.flatten[offset chunks i + k]? = chunk[k]? := by
  induction chunks generalizing i with
  | nil => cases hi
  | cons first chunks ih =>
    cases i with
    | zero =>
      obtain rfl := Option.some.inj hi
      rw [offset_zero, Nat.zero_add, List.flatten_cons, List.getElem?_append_left hk]
    | succ i =>
      rw [List.getElem?_cons_succ] at hi
      rw [offset_cons_succ, List.flatten_cons, Nat.add_assoc,
        List.getElem?_append_right (Nat.le_add_right _ _), Nat.add_sub_cancel_left, ih hi]

/-- Every item of a flattened list is in one of the lists. -/
theorem exists_of_getElem?_flatten {chunks : List (List α)} {j : ℕ} {a : α}
    (h : chunks.flatten[j]? = some a) :
    ∃ i k chunk, chunks[i]? = some chunk ∧ chunk[k]? = some a ∧ j = offset chunks i + k := by
  induction chunks generalizing j with
  | nil => cases h
  | cons first chunks ih =>
    rw [List.flatten_cons] at h
    by_cases hj : j < first.length
    · rw [List.getElem?_append_left hj] at h
      exact ⟨0, j, first, rfl, h, (Nat.zero_add j).symm⟩
    · rw [List.getElem?_append_right (Nat.le_of_not_lt hj)] at h
      obtain ⟨i, k, chunk, hi, hk, hindex⟩ := ih h
      refine ⟨i + 1, k, chunk, hi, hk, ?_⟩
      rw [offset_cons_succ]
      omega

/-- **The part** of a flattened list that one of the lists is. -/
theorem take_drop_flatten {chunks : List (List α)} {chunk : List α} {i : ℕ}
    (hi : chunks[i]? = some chunk) :
    (chunks.flatten.drop (offset chunks i)).take chunk.length = chunk := by
  obtain ⟨hlt, rfl⟩ := List.getElem?_eq_some_iff.1 hi
  rw [offset, List.drop_sum_flatten, List.drop_eq_getElem_cons hlt, List.flatten_cons,
    List.take_left']
  rfl

/-! ## Labels -/

section labels

variable {f : ℕ → ℕ → α → β} {label : ℕ → β → Bool}

/-- Later blocks have other labels. -/
theorem filter_numberBlocks_of_le (hlabel : ∀ n b k a, label k (f n b a) = decide (b = k))
    {number block k : ℕ} (blocks : List (List α)) (hk : k ≤ block) :
    (numberBlocks f number block blocks).flatten.filter (label k) = [] := by
  induction blocks generalizing number block with
  | nil => rfl
  | cons items blocks ih =>
    rw [numberBlocks, List.flatten_cons, List.filter_append, ih (by omega), List.append_nil,
      List.filter_eq_nil_iff]
    intro b hb
    obtain ⟨j, hj⟩ := List.mem_iff_getElem?.1 hb
    rw [List.getElem?_mapIdx, Option.map_eq_some_iff] at hj
    obtain ⟨a, -, rfl⟩ := hj
    rw [hlabel, decide_eq_true_iff]
    omega

/-- **The items** with the label of a block are those of the block. -/
theorem filter_numberBlocks (hlabel : ∀ n b k a, label k (f n b a) = decide (b = k))
    {number block i : ℕ} {blocks : List (List α)} {chunk : List β}
    (hi : (numberBlocks f number block blocks)[i]? = some chunk) :
    (numberBlocks f number block blocks).flatten.filter (label (block + i + 1)) = chunk := by
  induction blocks generalizing number block i with
  | nil => cases hi
  | cons items blocks ih =>
    have hfirst : ∀ k, (items.mapIdx fun j => f (number + j + 1) (block + 1)).filter (label k)
        = if block + 1 = k then items.mapIdx fun j => f (number + j + 1) (block + 1) else [] := by
      intro k
      have hmem : ∀ b ∈ items.mapIdx fun j => f (number + j + 1) (block + 1),
          label k b = decide (block + 1 = k) := by
        intro b hb
        obtain ⟨j, hj⟩ := List.mem_iff_getElem?.1 hb
        rw [List.getElem?_mapIdx, Option.map_eq_some_iff] at hj
        obtain ⟨a, -, rfl⟩ := hj
        exact hlabel _ _ _ _
      by_cases hk : block + 1 = k
      · rw [if_pos hk, List.filter_eq_self]
        exact fun b hb => (hmem b hb).trans (decide_eq_true hk)
      · rw [if_neg hk, List.filter_eq_nil_iff]
        exact fun b hb => by rw [hmem b hb, decide_eq_true_iff]; exact hk
    rw [numberBlocks, List.flatten_cons, List.filter_append, hfirst]
    cases i with
    | zero =>
      rw [if_pos rfl, filter_numberBlocks_of_le hlabel blocks (Nat.le_refl _), List.append_nil]
      exact Option.some.inj hi
    | succ i =>
      rw [numberBlocks, List.getElem?_cons_succ] at hi
      rw [if_neg (by omega), List.nil_append, ← ih hi, Nat.add_right_comm block 1 i,
        Nat.add_assoc block i 1]

end labels

/-! ## The joined list -/

section join

variable (f : ℕ → ℕ → α → β) (blocks : List (List α))

theorem offset_numberBlocks (number block i : ℕ) :
    offset (numberBlocks f number block blocks) i = offset blocks i := by
  rw [offset, offset, map_length_numberBlocks]

@[simp] theorem length_join : (join f blocks).length = (blocks.map List.length).sum := by
  rw [join, List.length_flatten, map_length_numberBlocks]

/-- The items may be mapped before. -/
theorem join_map {γ : Type} (g : γ → α) (blocks : List (List γ)) :
    join f (blocks.map (List.map g))
      = join (fun number block c => f number block (g c)) blocks := by
  have hchunks : ∀ number block, numberBlocks f number block (blocks.map (List.map g))
      = numberBlocks (fun number block c => f number block (g c)) number block blocks := by
    induction blocks with
    | nil => exact fun _ _ => rfl
    | cons items blocks ih =>
      intro number block
      rw [List.map_cons, numberBlocks, numberBlocks, ih, List.length_map, List.mapIdx_eq_iff.2]
      intro i
      rw [List.getElem?_mapIdx, List.getElem?_map, Option.map_map]
      rfl
  rw [join, join, hchunks]

/-- The joined items may be mapped afterwards. -/
theorem map_join {γ : Type} (g : β → γ) :
    (join f blocks).map g = join (fun number block a => g (f number block a)) blocks := by
  have hchunks : ∀ number block, (numberBlocks f number block blocks).map (List.map g)
      = numberBlocks (fun number block a => g (f number block a)) number block blocks := by
    induction blocks with
    | nil => exact fun _ _ => rfl
    | cons items blocks ih =>
      intro number block
      rw [numberBlocks, numberBlocks, List.map_cons, ih]
      congr 1
      apply List.ext_getElem?
      intro k
      rw [List.getElem?_map, List.getElem?_mapIdx, List.getElem?_mapIdx, Option.map_map]
      rfl
  rw [join, join, List.map_flatten, hchunks]

/-- **An item** of a block in the joined list. -/
theorem getElem?_join {items : List α} {a : α} {i k : ℕ} (hi : blocks[i]? = some items)
    (hk : items[k]? = some a) :
    (join f blocks)[offset blocks i + k]? = some (f (offset blocks i + k + 1) (i + 1) a) := by
  have hchunk := getElem?_numberBlocks f 0 0 blocks i
  rw [hi, Option.map_some] at hchunk
  have hlt : k < items.length := (List.getElem?_eq_some_iff.1 hk).1
  have hitem := getElem?_flatten_offset hchunk (hlt.trans_eq List.length_mapIdx.symm)
  rw [offset_numberBlocks, List.getElem?_mapIdx, hk] at hitem
  rw [join, hitem, Nat.zero_add, Nat.zero_add]
  rfl

/-- Where an item of the joined list comes from. -/
theorem exists_of_getElem?_join {j : ℕ} {b : β} (h : (join f blocks)[j]? = some b) :
    ∃ i k items a, blocks[i]? = some items ∧ items[k]? = some a ∧ j = offset blocks i + k ∧
      b = f (j + 1) (i + 1) a := by
  obtain ⟨i, k, chunk, hi, hk, hj⟩ := exists_of_getElem?_flatten h
  rw [getElem?_numberBlocks, Option.map_eq_some_iff] at hi
  obtain ⟨items, hitems, rfl⟩ := hi
  rw [List.getElem?_mapIdx, Option.map_eq_some_iff] at hk
  obtain ⟨a, ha, rfl⟩ := hk
  rw [offset_numberBlocks] at hj
  refine ⟨i, k, items, a, hitems, ha, hj, ?_⟩
  rw [Nat.zero_add, Nat.zero_add, ← hj]

/-- **The items** with the label of a block are the part of the list that the block is. -/
theorem filter_join {label : ℕ → β → Bool}
    (hlabel : ∀ n b k a, label k (f n b a) = decide (b = k)) {items : List α} {i : ℕ}
    (hi : blocks[i]? = some items) :
    (join f blocks).filter (label (i + 1))
      = ((join f blocks).drop (offset blocks i)).take items.length := by
  have hchunk := getElem?_numberBlocks f 0 0 blocks i
  rw [hi, Option.map_some] at hchunk
  have hpart := take_drop_flatten hchunk
  rw [offset_numberBlocks, List.length_mapIdx] at hpart
  have hfilter := filter_numberBlocks hlabel hchunk
  rw [Nat.zero_add i] at hchunk hpart hfilter
  rw [join, hpart, hfilter]

/-- What is read from the joined items is what they have, whatever their numbers are. -/
theorem forall₂_join {γ : Type} {R : β → γ → Prop} {g : α → γ}
    (h : ∀ n b a, R (f n b a) (g a)) : List.Forall₂ R (join f blocks) (blocks.flatten.map g) := by
  have hitems : ∀ (items : List α) (f' : ℕ → α → β), (∀ k a, R (f' k a) (g a)) →
      List.Forall₂ R (items.mapIdx f') (items.map g) := by
    intro items
    induction items with
    | nil => exact fun _ _ => .nil
    | cons a items ih =>
      intro f' hf'
      rw [List.mapIdx_cons]
      exact .cons (hf' 0 a) (ih _ fun k b => hf' (k + 1) b)
  have hblocks : ∀ number block,
      List.Forall₂ R (numberBlocks f number block blocks).flatten (blocks.flatten.map g) := by
    induction blocks with
    | nil => exact fun _ _ => .nil
    | cons items blocks ih =>
      intro number block
      rw [numberBlocks, List.flatten_cons, List.flatten_cons, List.map_append]
      exact List.rel_append (hitems items _ fun k a => h _ _ a) (ih _ _)
  exact hblocks 0 0

end join

end Blocks
